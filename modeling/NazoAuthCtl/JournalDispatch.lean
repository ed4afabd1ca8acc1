import NazoAuthCtl.JournalSpace

/-!
# The ways of a journaled call

A call of `run_journaled` that reads its file decides on the lines that are left
after compaction. It answers from them, refuses for want of room, or executes.
Nothing but an execution touches the world.
-/

set_option autoImplicit false
set_option linter.all false

namespace NazoAuthCtl.JournalDispatch

open FaultProgram TargetState JournalCompaction JournaledCalls JournalSpace

variable {ρ β ω : Type}

section dispatch

variable (journal : TargetJournal β)

/-- The lines that a call on a file decides on. -/
def openedLines (lines : List (JournalLine β)) : List (JournalLine β) :=
  if totalSize journal.encode lines ≤ journal.bounds.maxBytes then lines
  else compacted journal lines

/-- The operation is resumed, or the pending budget has room for it. -/
def admitted (operation : HostOperation) (acceptedAt : ℤ) (lines : List (JournalLine β)) : Prop :=
  resumes operation lines ∨
    lineSize journal.encode (pendingLine operation acceptedAt) +
      totalSize journal.encode (unsettled [] lines.reverse) ≤ journal.bounds.maxPendingBytes

instance (operation : HostOperation) (acceptedAt : ℤ) (lines : List (JournalLine β)) :
    Decidable (admitted journal operation acceptedAt lines) :=
  inferInstanceAs (Decidable (_ ∨ _))

/-- The ways of a call. `lines` are those it decides on. -/
inductive Dispatched (call : Call ρ β ω) (world : ω) (lines : List (JournalLine β)) :
    Outcome JournalError (HostOutcome β) → ω → Prop where
  | unanswered {o : Outcome JournalError (HostOutcome β)} (none : ∀ r, o ≠ .ok r) :
    Dispatched call world lines o world
  | conflict {accepted : JournalLine β}
    (found : conflicting call.operation lines = some accepted) :
    Dispatched call world lines (.ok (conflictFor call.operation accepted)) world
  | stored {result : HostOutcome β} (agrees : conflicting call.operation lines = none)
    (answer : storedAnswer call.operation lines = some result) :
    Dispatched call world lines (.ok result) world
  | refused (agrees : conflicting call.operation lines = none)
    (unanswered : storedAnswer call.operation lines = none)
    (full : ¬admitted journal call.operation call.attempt.acceptedAt lines) :
    Dispatched call world lines (.ok capacityRefusal) world
  | executed {o : Outcome JournalError (HostOutcome β)}
    (agrees : conflicting call.operation lines = none)
    (unanswered : storedAnswer call.operation lines = none)
    (room : admitted journal call.operation call.attempt.acceptedAt lines)
    (answer : ∀ r, o = .ok r → (call.execute call.attempt.execution world).1 = some r) :
    Dispatched call world lines o (call.execute call.attempt.execution world).2

theorem compactIfNeeded_world (label : JournalEffect) {e : Attempt ρ}
    {s : Scope β ω} :
    Program.Ensures (compactIfNeeded journal label : Journaling ρ β ω _) e
      (fun _ s' => s'.world = s.world) s := by
  refine (compactIfNeeded_ensures journal label).mono ?_
  rintro o s' (⟨rfl, -⟩ | ⟨_, -, -, world, -⟩)
  · rfl
  · exact world

theorem acceptOperation_ensures (operation : HostOperation) (lines : List (JournalLine β))
    {e : Attempt ρ} {s : Scope β ω} :
    Program.Ensures (acceptOperation journal operation lines : Journaling ρ β ω _) e
      (fun o s' => s'.world = s.world ∧
        (∀ r, o = .ok (some r) →
          r = capacityRefusal ∧ ¬admitted journal operation e.acceptedAt lines) ∧
        (o = .ok none → admitted journal operation e.acceptedAt lines)) s := by
  unfold acceptOperation
  split_ifs with resumed
  · exact ⟨rfl, by simp, fun _ => .inl resumed⟩
  simp only [Program.ensures_bind, Program.ensures_environment, Program.after_ok]
  split_ifs with full
  · refine ⟨rfl, fun r answer => ?_, by simp⟩
    cases answer
    exact ⟨rfl, fun room => room.elim resumed (Nat.not_le.mpr full)⟩
  simp only [append, Program.ensures_bind, ensures_touch, Program.ensures_modify,
    Program.after_ok, Program.after_error, Program.after_crashed]
  refine ⟨fun _ => ?_, by simp, by simp⟩
  refine (compactIfNeeded_world journal .compactPending).mono ?_
  rintro (r | failure | _) s' world
  · exact ⟨world, by simp, fun _ => .inr (Nat.not_lt.mp full)⟩
  · exact ⟨world, by simp, by simp⟩
  · exact ⟨world, by simp, by simp⟩

theorem recordOutcome_ensures (operation : HostOperation) (outcome : HostOutcome β)
    {e : Attempt ρ} {s : Scope β ω} :
    Program.Ensures (recordOutcome journal operation outcome : Journaling ρ β ω _) e
      (fun o s' => s'.world = s.world ∧ ∀ r, o = .ok r → outcome = r) s := by
  unfold recordOutcome
  split_ifs with noop keeps
  · simp only [removeOperation, Program.ensures_bind]
    refine (readLines_ensures journal).mono ?_
    rintro (lines | failure | _) s' ⟨rfl, -, -⟩
    · simp [ensures_touch, writeLines]
    · simp
    · simp
  · simp
  · simp only [append, Program.ensures_bind, Program.ensures_environment, ensures_touch,
      Program.ensures_modify, Program.after_ok, Program.after_error, Program.after_crashed]
    refine ⟨fun _ => ?_, by simp, by simp⟩
    refine (compactIfNeeded_world journal .compactTerminal).mono ?_
    rintro (r | failure | _) s' world
    · exact ⟨world, by simp⟩
    · exact ⟨world, by simp⟩
    · exact ⟨world, by simp⟩

theorem call_dispatched (call : Call ρ β ω) (scope : Scope β ω) :
    Dispatched journal call scope.world (openedLines journal scope.lines)
      (call.run journal scope).1 (call.run journal scope).2.world := by
  have opening := openJournal_ensures journal (e := call.attempt) (s := scope)
  rcases h : openJournal journal call.attempt scope with ⟨lines | failure | _, opened⟩
  · rw [Program.Ensures, h] at opening
    obtain ⟨same, world, settled⟩ := opening.1 lines rfl
    have decided : opened.lines = openedLines journal scope.lines := by
      rcases settled with ⟨small, kept⟩ | ⟨large, -, kept⟩
      · exact kept.trans (if_pos small).symm
      · exact kept.trans (if_neg (Nat.not_le.mpr large)).symm
    have same : lines = openedLines journal scope.lines := same.trans decided
    subst same
    have run : call.run journal scope = _ := Program.run_bind_ok h
    rw [run, ← world]
    cases conflict : conflicting call.operation (openedLines journal scope.lines) with
    | some accepted => exact .conflict conflict
    | none =>
      cases stored : storedAnswer call.operation (openedLines journal scope.lines) with
      | some result => exact .stored conflict stored
      | none =>
        have accepting := acceptOperation_ensures journal call.operation
          (openedLines journal scope.lines) (e := call.attempt) (s := opened)
        rcases accept : acceptOperation journal call.operation (openedLines journal scope.lines)
          call.attempt opened with ⟨refusal | failure | _, accepted⟩
        · rw [Program.Ensures, accept] at accepting
          obtain ⟨kept, refuses, admits⟩ := accepting
          simp only [Program.run_bind_ok accept]
          cases refusal with
          | some refusal =>
            obtain ⟨rfl, full⟩ := refuses refusal rfl
            exact kept ▸ .refused conflict stored full
          | none =>
            have room := admits rfl
            have executes : ∀ {o w'}, w' = (call.execute call.attempt.execution opened.world).2 →
                (∀ r, o = .ok r → (call.execute call.attempt.execution opened.world).1 = some r) →
                Dispatched journal call opened.world (openedLines journal scope.lines) o w' :=
              fun kept answer => kept ▸ .executed conflict stored room answer
            rcases run : call.execute call.attempt.execution accepted.world with
              ⟨_ | outcome, world'⟩
            · have lost : executing call.execute call.attempt accepted =
                  (.crashed, { accepted with world := world' }) := by simp [executing, run]
              simp only [Program.run_bind_crashed lost]
              exact executes (by rw [← kept, run]) (by simp)
            · have answered : executing call.execute call.attempt accepted =
                  (.ok outcome, { accepted with world := world' }) := by simp [executing, run]
              simp only [Program.run_bind_ok answered]
              obtain ⟨recorded, same⟩ := recordOutcome_ensures journal call.operation outcome
                (e := call.attempt) (s := { accepted with world := world' })
              refine executes (by rw [← kept, run]; exact recorded) fun r answer => ?_
              rw [← kept, run]
              exact congrArg some (same r answer)
        · rw [Program.Ensures, accept] at accepting
          simp only [Program.run_bind_error accept]
          exact accepting.1 ▸ .unanswered (by simp)
        · rw [Program.Ensures, accept] at accepting
          simp only [Program.run_bind_crashed accept]
          exact accepting.1 ▸ .unanswered (by simp)
  · rw [Program.Ensures, h] at opening
    have run : call.run journal scope = (.error failure, opened) := Program.run_bind_error h
    rw [run, ← (opening.2 (by simp)).1]
    exact .unanswered (by simp)
  · rw [Program.Ensures, h] at opening
    have run : call.run journal scope = (.crashed, opened) := Program.run_bind_crashed h
    rw [run, ← (opening.2 (by simp)).1]
    exact .unanswered (by simp)

/-- A call executes on the world it found, or leaves it alone. -/
theorem call_world (call : Call ρ β ω) (scope : Scope β ω) :
    (call.run journal scope).2.world = scope.world ∨
      (call.run journal scope).2.world =
        (call.execute call.attempt.execution scope.world).2 := by
  have dispatched := call_dispatched journal call scope
  generalize (call.run journal scope).1 = o at dispatched
  generalize (call.run journal scope).2.world = world at dispatched ⊢
  cases dispatched with
  | unanswered _ => exact .inl rfl
  | conflict _ => exact .inl rfl
  | stored _ _ => exact .inl rfl
  | refused _ _ _ => exact .inl rfl
  | executed _ _ _ _ => exact .inr rfl

end dispatch

section progress

variable {journal : TargetJournal β} {e : Attempt ρ} {s : Scope β ω}

theorem compactIfNeeded_readable {label : JournalEffect}
    (readable : Readable journal s.lines) (fault : e.faults label = .none) :
    ∃ r s', compactIfNeeded journal label e s = (.ok r, s') := by
  unfold compactIfNeeded
  rw [Program.run_bind_ok Program.run_get]
  split_ifs with small
  · exact ⟨_, _, rfl⟩
  · rw [Program.run_bind_ok (readLines_readable readable)]
    simp [Program.run_bind, touch, Program.effect, fault, writeLines]

theorem recordOutcome_answers {operation : HostOperation} {appends : JournalLine β → Prop}
    (kept : Kept journal operation appends (Readable journal)
      (Steady journal)) (clean : ∀ label, e.faults label = .none)
    (steady : Steady journal s.lines) (agrees : Agrees operation s.lines)
    {outcome : HostOutcome β} (appended : appends (terminalLine operation e.completedAt outcome)) :
    ∃ r, (recordOutcome journal operation outcome e s).1 = .ok r := by
  unfold recordOutcome
  split_ifs with noop keeps
  · have read : readLines journal e s = (.ok s.lines, s) :=
      readLines_readable (kept.rest steady)
    simp [removeOperation, Program.run_bind, read, touch, Program.effect, clean, writeLines]
  · exact ⟨_, rfl⟩
  · have grown := kept.terminal e.completedAt outcome steady agrees appended
    obtain ⟨r, s', compacts⟩ := compactIfNeeded_readable (s := { s with lines := s.lines ++
      [terminalLine operation e.completedAt outcome] }) grown (clean .compactTerminal)
    have appends : append .appendTerminal (terminalLine operation e.completedAt outcome) e s =
        (.ok (), { s with lines := s.lines ++
          [terminalLine operation e.completedAt outcome] }) := by
      simp [append, touch, Program.effect, clean]
    rw [Program.run_bind_ok Program.run_environment, Program.run_bind_ok appends,
      Program.run_bind_ok compacts]
    exact ⟨_, rfl⟩

/-- Where every effect takes place and what is appended fits, a call answers. -/
theorem call_answers (roomy : Roomy journal.bounds) (call : Call ρ β ω)
    (scope : Scope β ω) (readable : Readable journal scope.lines)
    (fitting : Fitting journal call)
    (clean : ∀ label, call.attempt.faults label = .none)
    (returns : ∀ world, (call.execute call.attempt.execution world).1 ≠ none) :
    ∃ outcome, (call.run journal scope).1 = .ok outcome := by
  have kept := bounded_kept roomy call.operation fitting
  obtain ⟨opened, opening⟩ :=
    openJournal_readable roomy readable (clean .lock) (clean .compactOpening)
  have settled := openJournal_ensures journal (e := call.attempt) (s := scope)
  rw [Program.Ensures, opening] at settled
  have steady : Steady journal opened.lines :=
    kept.settle readable (settled.1 _ rfl).2.2
  rw [run_opened opening]
  cases conflict : conflicting call.operation opened.lines with
  | some accepted => exact ⟨_, rfl⟩
  | none =>
    cases stored : storedAnswer call.operation opened.lines with
    | some result => exact ⟨_, rfl⟩
    | none =>
      have accepts : ∃ r accepted, acceptOperation journal call.operation opened.lines
          call.attempt opened = (.ok r, accepted) := by
        unfold acceptOperation
        split_ifs with resumed
        · exact ⟨_, _, rfl⟩
        rw [Program.run_bind_ok Program.run_environment]
        split_ifs with full
        · exact ⟨_, _, rfl⟩
        have grown := kept.pending call.attempt.acceptedAt steady (conflicting_none.mp conflict)
          resumed (Nat.le_of_not_lt full)
        obtain ⟨r, s', compacts⟩ := compactIfNeeded_readable
          (s := { opened with lines := opened.lines ++
            [pendingLine call.operation call.attempt.acceptedAt] }) grown
          (clean .compactPending)
        have appends : append .appendPending
            (pendingLine call.operation call.attempt.acceptedAt) call.attempt opened =
              (.ok (), { opened with lines := opened.lines ++
                [pendingLine call.operation call.attempt.acceptedAt] }) := by
          simp [append, touch, Program.effect, clean]
        rw [Program.run_bind_ok appends, Program.run_bind_ok compacts]
        exact ⟨_, _, rfl⟩
      obtain ⟨r, accepted, accept⟩ := accepts
      simp only [Program.run_bind_ok accept]
      cases r with
      | some refusal => exact ⟨_, rfl⟩
      | none =>
        have accepting := kept.accept (e := call.attempt) steady rfl (conflicting_none.mp conflict)
        rw [Program.Ensures, accept] at accepting
        obtain ⟨steady, agrees⟩ := accepting.2 none rfl
        rcases executed : call.execute call.attempt.execution accepted.world with
          ⟨_ | outcome, world⟩
        · exact absurd (congrArg Prod.fst executed) (returns _)
        · have answered : executing call.execute call.attempt accepted =
              (.ok outcome, { accepted with world }) := by simp [executing, executed]
          simp only [Program.run_bind_ok answered]
          have appended : call.appends (terminalLine call.operation call.attempt.completedAt
            outcome) := ⟨accepted.world, outcome, world, executed, rfl⟩
          exact recordOutcome_answers (s := { accepted with world }) kept clean steady agrees
            appended

end progress

/-- Nothing settled is kept once the hard budget is used up. -/
theorem selected_exhausted (encode : JournalLine β → Bytes) (bounds : JournalBounds)
    (seen : List OperationId) (budgets : Budgets) (lines : List (JournalLine β))
    (spent : budgets.hardBudget = 0) (settled : unsettled seen lines = []) :
    selected encode bounds seen budgets lines = [] := by
  induction lines generalizing seen with
  | nil => rfl
  | cons line older ih =>
    have nonempty : ¬budgets.admits bounds (lineSize encode line) := by
      simp [Budgets.admits, spent, lineSize, lineBytes]
    rw [unsettled_cons] at settled
    rw [selected_cons]
    split_ifs at settled ⊢ with pending known
    · exact ih _ settled
    · exact ih _ settled

section plain

variable {journal : TargetJournal β}

/-- A call of a new operation whose every effect takes place, on a file with room for its two
lines. -/
structure Plain (journal : TargetJournal β) (call : Call ρ β ω) (scope : Scope β ω)
    (outcome : HostOutcome β) : Prop where
  clean : ∀ label, call.attempt.faults label = .none
  new : ∀ line ∈ scope.lines, line.operationId ≠ call.operation.operationId
  settled : unsettled [] scope.lines.reverse = []
  executed : (call.execute call.attempt.execution scope.world).1 = some outcome
  counts : isUpdateNoop call.operation outcome = false
  final : keepsPending outcome = false
  valid : ∀ line ∈ scope.lines, validateEntry line = true
  pending : lineSize journal.encode (pendingLine call.operation call.attempt.acceptedAt) ≤
    journal.bounds.maxPendingBytes
  room : totalSize journal.encode scope.lines +
    lineSize journal.encode (pendingLine call.operation call.attempt.acceptedAt) ≤
      journal.bounds.maxBytes

/-- What the file holds after a plain call, unless it has to be compacted. -/
def recordedLines (call : Call ρ β ω) (outcome : HostOutcome β)
    (lines : List (JournalLine β)) : List (JournalLine β) :=
  lines ++ [pendingLine call.operation call.attempt.acceptedAt,
    terminalLine call.operation call.attempt.completedAt outcome]

theorem recorded_valid {call : Call ρ β ω} {outcome : HostOutcome β} {lines : List (JournalLine β)}
    (valid : ∀ line ∈ lines, validateEntry line = true) :
    ∀ line ∈ recordedLines call outcome lines, validateEntry line = true := by
  intro line hline
  simp only [recordedLines, List.mem_append, List.mem_cons, List.not_mem_nil, or_false] at hline
  rcases hline with hline | rfl | rfl
  · exact valid line hline
  · rfl
  · cases outcome <;> rfl

theorem recorded_settled {call : Call ρ β ω} {outcome : HostOutcome β}
    {lines : List (JournalLine β)} (settled : unsettled [] lines.reverse = []) :
    unsettled [] (recordedLines call outcome lines).reverse = [] := by
  have order : (recordedLines call outcome lines).reverse =
      terminalLine call.operation call.attempt.completedAt outcome ::
        pendingLine call.operation call.attempt.acceptedAt :: lines.reverse := by
    simp [recordedLines]
  have terminal := terminalLine_status call.operation call.attempt.completedAt outcome
  have older := unsettled_mono (List.nil_subset
    [(pendingLine call.operation call.attempt.acceptedAt : JournalLine β).operationId,
      (terminalLine call.operation call.attempt.completedAt outcome).operationId]) lines.reverse
  rw [settled, List.sublist_nil] at older
  have waits : (pendingLine call.operation call.attempt.acceptedAt : JournalLine β).status =
      .pending := rfl
  rw [order, unsettled_cons, if_neg terminal, unsettled_cons,
    if_pos waits, if_pos (by simp [pendingLine, terminalLine])]
  exact older

theorem compactIfNeeded_opened {label : JournalEffect} {e : Attempt ρ}
    {s : Scope β ω} (readable : Readable journal s.lines)
    (fault : e.faults label = .none) :
    ∃ r, compactIfNeeded journal label e s =
      (.ok r, { s with lines := openedLines journal s.lines }) := by
  unfold compactIfNeeded openedLines
  rw [Program.run_bind_ok Program.run_get]
  split_ifs with small
  · exact ⟨_, rfl⟩
  · rw [Program.run_bind_ok (readLines_readable readable)]
    simp [Program.run_bind, touch, Program.effect, fault, writeLines, compacted]

theorem plain_run (roomy : Roomy journal.bounds) {call : Call ρ β ω}
    {scope : Scope β ω} {outcome : HostOutcome β} (plain : Plain journal call scope outcome)
    (read : totalSize journal.encode (recordedLines call outcome scope.lines) ≤
      journal.bounds.readCap) :
    call.run journal scope =
      (.ok outcome, ⟨openedLines journal (recordedLines call outcome scope.lines),
        (call.execute call.attempt.execution scope.world).2⟩) := by
  have steady : Steady journal scope.lines :=
    ⟨plain.valid, by simp [unsettledSize, plain.settled, totalSize],
      by have := plain.room; omega⟩
  have agrees : conflicting call.operation scope.lines = none :=
    conflicting_none.mpr fun line hline same => absurd same (plain.new line hline)
  have unseen : latest scope.lines call.operation.operationId = none := by
    simpa [latest] using plain.new
  have fresh : storedAnswer call.operation scope.lines = none := by simp [storedAnswer, unseen]
  have starts : ¬resumes call.operation scope.lines := by simp [resumes, unseen]
  have budget : ¬journal.bounds.maxPendingBytes <
      lineSize journal.encode (pendingLine call.operation call.attempt.acceptedAt) +
        totalSize journal.encode (unsettled [] scope.lines.reverse) := by
    simpa [plain.settled, totalSize] using plain.pending
  have appends : ∀ label line (s : Scope β ω), append label line call.attempt s =
      (.ok (), { s with lines := s.lines ++ [line] }) := by
    intro label line s
    simp [append, touch, Program.effect, plain.clean]
  have pendings : totalSize journal.encode (scope.lines ++
      [pendingLine call.operation call.attempt.acceptedAt]) ≤ journal.bounds.maxBytes := by
    have room := plain.room
    rw [totalSize_append]
    simpa [totalSize] using room
  have settles : ∀ s : Scope β ω, totalSize journal.encode s.lines ≤ journal.bounds.maxBytes →
      compactIfNeeded journal .compactPending call.attempt s = (.ok none, s) := by
    intro s small
    unfold compactIfNeeded
    rw [Program.run_bind_ok Program.run_get, if_pos small]
    rfl
  have accept : acceptOperation journal call.operation scope.lines call.attempt scope =
      (.ok none, { scope with lines := scope.lines ++
        [pendingLine call.operation call.attempt.acceptedAt] }) := by
    unfold acceptOperation
    rw [if_neg starts, Program.run_bind_ok Program.run_environment]
    simp only [if_neg budget]
    rw [Program.run_bind_ok (appends _ _ _), Program.run_bind_ok (settles _ pendings)]
    rfl
  have readable : Readable journal (recordedLines call outcome scope.lines) :=
    ⟨recorded_valid plain.valid, by
      simp [unsettledSize, recorded_settled plain.settled, totalSize], read⟩
  have execute : executing call.execute call.attempt { scope with lines := scope.lines ++
        [pendingLine call.operation call.attempt.acceptedAt] } =
      (.ok outcome, ⟨scope.lines ++ [pendingLine call.operation call.attempt.acceptedAt],
        (call.execute call.attempt.execution scope.world).2⟩) := by
    have executed := plain.executed
    rcases run : call.execute call.attempt.execution scope.world with ⟨_ | result, world⟩
    · simp [run] at executed
    · simp only [run, Option.some.injEq] at executed
      simp [executing, run, executed]
  rw [run_opened (openJournal_steady roomy steady (plain.clean .lock)), agrees, fresh]
  simp only [Program.run_bind_ok accept, Program.run_bind_ok execute]
  rw [recordOutcome, if_neg (by simp [plain.counts]), if_neg (by simp [plain.final]),
    Program.run_bind_ok Program.run_environment, Program.run_bind_ok (appends _ _ _)]
  have same : (scope.lines ++ [pendingLine call.operation call.attempt.acceptedAt]) ++
      [terminalLine call.operation call.attempt.completedAt outcome] =
        recordedLines call outcome scope.lines := by simp [recordedLines]
  simp only [same]
  obtain ⟨r, compacts⟩ := compactIfNeeded_opened (s := Scope.mk
    (recordedLines call outcome scope.lines)
    (call.execute call.attempt.execution scope.world).2) readable (plain.clean .compactTerminal)
  rw [Program.run_bind_ok compacts]
  rfl

end plain

section lines

variable {journal : TargetJournal β} {operation : HostOperation} {e : Attempt ρ}
  {s : Scope β ω} {P : JournalLine β → Prop}

theorem compactIfNeeded_lines (label : JournalEffect) (old : ∀ line ∈ s.lines, P line) :
    Program.Ensures (compactIfNeeded journal label : Journaling ρ β ω _) e
      (fun _ s' => ∀ line ∈ s'.lines, P line) s :=
  (compactIfNeeded_sublist journal label).mono fun _ _ kept line hline =>
    old line (kept.subset hline)

theorem acceptOperation_lines (lines : List (JournalLine β)) (old : ∀ line ∈ s.lines, P line)
    (pending : P (pendingLine operation e.acceptedAt)) :
    Program.Ensures (acceptOperation journal operation lines : Journaling ρ β ω _) e
      (fun _ s' => ∀ line ∈ s'.lines, P line) s := by
  unfold acceptOperation
  split_ifs with resumed
  · exact old
  simp only [Program.ensures_bind, Program.ensures_environment, Program.after_ok]
  split_ifs with full
  · exact old
  simp only [append, Program.ensures_bind, ensures_touch, Program.ensures_modify,
    Program.after_ok, Program.after_error, Program.after_crashed]
  refine ⟨fun _ => ?_, fun _ _ => old, fun _ => old⟩
  have grown : ∀ line ∈ s.lines ++ [pendingLine operation e.acceptedAt], P line := by
    simp only [List.mem_append, List.mem_singleton]
    rintro line (hline | rfl)
    · exact old line hline
    · exact pending
  refine (compactIfNeeded_lines .compactPending grown).mono ?_
  rintro (r | failure | _) s' kept
  · exact kept
  · exact kept
  · exact kept

theorem recordOutcome_lines {outcome : HostOutcome β} (old : ∀ line ∈ s.lines, P line)
    (terminal : keepsPending outcome = false →
      P (terminalLine operation e.completedAt outcome)) :
    Program.Ensures (recordOutcome journal operation outcome : Journaling ρ β ω _) e
      (fun _ s' => ∀ line ∈ s'.lines, P line) s := by
  by_cases keeps : keepsPending outcome = true
  · unfold recordOutcome
    split_ifs with noop
    · cases outcome <;> simp [isUpdateNoop, keepsPending] at noop keeps
    · exact old
  · refine (recordOutcome_sublist journal operation outcome).mono fun _ s' kept line hline => ?_
    rcases List.mem_append.mp (kept.subset hline) with hline | hline
    · exact old line hline
    · rw [List.mem_singleton.mp hline]
      exact terminal (by simpa using keeps)

/-- The line was there before the call, or it is one of the two that the call may write, the
terminal one for the execution that left this world. -/
def Added (call : Call ρ β ω) (scope after : Scope β ω) (line : JournalLine β) : Prop :=
  line ∈ scope.lines ∨ line = pendingLine call.operation call.attempt.acceptedAt ∨
    ∃ outcome, call.execute call.attempt.execution scope.world = (some outcome, after.world) ∧
      keepsPending outcome = false ∧
      line = terminalLine call.operation call.attempt.completedAt outcome

/-- Where a line of the file comes from, wherever the call is cut off. -/
theorem call_added (call : Call ρ β ω) (scope : Scope β ω) :
    ∀ line ∈ (call.run journal scope).2.lines, Added call scope (call.run journal scope).2 line := by
  have opening : Program.Ensures (openJournal journal : Journaling ρ β ω _) call.attempt
      (fun _ s' => s'.world = scope.world ∧ ∀ line ∈ s'.lines, line ∈ scope.lines) scope := by
    refine (openJournal_ensures journal).mono ?_
    rintro (lines | failure | _) s' ⟨opened, failed⟩
    · exact ⟨(opened lines rfl).2.1, fun line hline => (opened lines rfl).2.2.sublist.subset hline⟩
    all_goals
      obtain ⟨world, same | settled⟩ := failed (by simp)
      · exact ⟨world, fun line hline => same ▸ hline⟩
      · exact ⟨world, fun line hline => settled.sublist.subset hline⟩
  suffices Program.Ensures (runJournaled journal call.operation call.execute) call.attempt
      (fun _ s' => ∀ line ∈ s'.lines, Added call scope s' line) scope from this
  rw [runJournaled, Program.ensures_bind]
  refine opening.mono ?_
  rintro (lines | failure | _) opened ⟨world, kept⟩
  · have old : ∀ line ∈ opened.lines, Added call scope opened line := fun line hline => .inl (kept line hline)
    rw [Program.after_ok]
    cases conflicting call.operation lines with
    | some accepted => exact old
    | none =>
      cases storedAnswer call.operation lines with
      | some result => exact old
      | none =>
        rw [Program.ensures_bind]
        have gained : Program.Ensures
            (acceptOperation journal call.operation lines : Journaling ρ β ω _) call.attempt
            (fun _ s' => ∀ line ∈ s'.lines, line ∈ scope.lines ∨
              line = pendingLine call.operation call.attempt.acceptedAt) opened :=
          acceptOperation_lines lines (fun line hline => .inl (kept line hline)) (.inr rfl)
        refine ((acceptOperation_ensures journal call.operation lines).and gained).mono ?_
        rintro (refusal | failure | _) accepted ⟨⟨stays, -, -⟩, kept⟩
        · rw [Program.after_ok]
          cases refusal with
          | some refusal => exact fun line hline => (kept line hline).imp_right .inl
          | none =>
            rw [Program.ensures_bind]
            unfold Program.Ensures executing
            have here := stays.trans world
            rcases run : call.execute call.attempt.execution accepted.world with
              ⟨_ | outcome, after⟩
            · exact fun line hline => (kept line hline).imp_right .inl
            · have gained : Program.Ensures
                  (recordOutcome journal call.operation outcome : Journaling ρ β ω _) call.attempt
                  (fun _ s' => ∀ line ∈ s'.lines, line ∈ scope.lines ∨
                    line = pendingLine call.operation call.attempt.acceptedAt ∨
                    keepsPending outcome = false ∧
                      line = terminalLine call.operation call.attempt.completedAt outcome)
                  { accepted with world := after } :=
                recordOutcome_lines (fun line hline => (kept line hline).imp_right .inl)
                  fun final => .inr (.inr ⟨final, rfl⟩)
              have step : Program.Ensures
                  (recordOutcome journal call.operation outcome : Journaling ρ β ω _) call.attempt
                  (fun _ s' => ∀ line ∈ s'.lines, Added call scope s' line)
                  { accepted with world := after } := by
                refine ((recordOutcome_ensures journal call.operation outcome).and gained).mono ?_
                rintro o s' ⟨⟨stays, -⟩, kept⟩ line hline
                rcases kept line hline with old | pending | ⟨final, terminal⟩
                · exact .inl old
                · exact .inr (.inl pending)
                · refine .inr (.inr ⟨outcome, ?_, final, terminal⟩)
                  rw [← here, run, stays]
              exact step
        · exact fun line hline => (kept line hline).imp_right .inl
        · exact fun line hline => (kept line hline).imp_right .inl
  · exact fun line hline => .inl (kept line hline)
  · exact fun line hline => .inl (kept line hline)

/-- What every line of the file has and every line that the call can add has, every line of
the file keeps having, wherever the call is cut off. -/
theorem call_lines (call : Call ρ β ω) {scope : Scope β ω}
    (old : ∀ line ∈ scope.lines, P line)
    (pending : P (pendingLine call.operation call.attempt.acceptedAt))
    (terminal : ∀ world outcome,
      (call.execute call.attempt.execution world).1 = some outcome → keepsPending outcome = false →
        P (terminalLine call.operation call.attempt.completedAt outcome)) :
    ∀ line ∈ (call.run journal scope).2.lines, P line := by
  intro line hline
  rcases call_added call scope line hline with known | rfl | ⟨outcome, run, final, rfl⟩
  · exact old line known
  · exact pending
  · exact terminal scope.world outcome (by rw [run]) final

/-- Every line of a reachable journal was added by a call. -/
theorem reachable_lines {allowed : Call ρ β ω → Prop} {scope : Scope β ω}
    (reachable : Reachable journal allowed scope)
    (pending : ∀ call, allowed call → P (pendingLine call.operation call.attempt.acceptedAt))
    (terminal : ∀ call, allowed call → ∀ world outcome,
      (call.execute call.attempt.execution world).1 = some outcome → keepsPending outcome = false →
        P (terminalLine call.operation call.attempt.completedAt outcome)) :
    ∀ line ∈ scope.lines, P line := by
  induction reachable with
  | absent world => simp
  | call call _ permitted ih =>
    exact call_lines call ih (pending call permitted) (terminal call permitted)
  | elsewhere world _ ih => exact ih

/-- A stored answer is the result of a line of the operation. -/
theorem storedAnswer_line {operation : HostOperation} {lines : List (JournalLine β)}
    {outcome : HostOutcome β} (h : storedAnswer operation lines = some outcome) :
    ∃ line ∈ lines, line.operationId = operation.operationId ∧ line.result = some outcome := by
  unfold storedAnswer at h
  cases found : latest lines operation.operationId with
  | none => simp [found] at h
  | some line =>
    rw [found] at h
    obtain ⟨member, id⟩ := latest_mem found
    dsimp only at h
    split_ifs at h
    exact ⟨line, member, id, h⟩

theorem openedLines_sublist (lines : List (JournalLine β)) :
    (openedLines journal lines).Sublist lines := by
  unfold openedLines
  split_ifs with small
  · exact List.Sublist.refl _
  · exact compacted_sublist journal lines

end lines


end NazoAuthCtl.JournalDispatch
