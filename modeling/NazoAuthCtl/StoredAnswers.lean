import Mathlib.Data.List.Induction
import NazoAuthCtl.JournalDispatch

/-!
# Stored answers

What a call of `run_journaled` leaves in the file comes from the lines that were there, its
own pending line and, if it executes, its own terminal line. An operation whose failure is
final executes only while the file holds no result of it, so over every run of calls a stored
result is that of the newest execution.
-/

set_option autoImplicit false
set_option linter.all false

namespace NazoAuthCtl.StoredAnswers

open FaultProgram TargetState JournalCompaction JournaledCalls JournalDispatch

variable {ρ β ω : Type}

/-- The file holds the outcome as the result of the operation accepted under the hash. -/
def Stored (lines : List (JournalLine β)) (operation : OperationId) (hash : Digest)
    (outcome : HostOutcome β) : Prop :=
  ∃ line ∈ lines, line.operationId = operation ∧ line.operationHash = hash ∧
    line.result = some outcome

/-- Nothing of the operation follows a result of it. -/
structure Final (operation : OperationId) (lines : List (JournalLine β)) : Prop where
  last : lines.Pairwise fun earlier later =>
    earlier.operationId = operation → earlier.result ≠ none → later.operationId ≠ operation
  settled : ∀ line ∈ lines, line.operationId = operation → line.result ≠ none →
    line.status ≠ .pending

theorem Stored.sublist {lines lines' : List (JournalLine β)} {operation : OperationId}
    {hash : Digest} {outcome : HostOutcome β} (stored : Stored lines operation hash outcome)
    (sub : lines.Sublist lines') : Stored lines' operation hash outcome := by
  obtain ⟨line, member, facts⟩ := stored
  exact ⟨line, sub.subset member, facts⟩

theorem Final.sublist {operation : OperationId} {lines lines' : List (JournalLine β)}
    (final : Final operation lines) (sub : lines'.Sublist lines) : Final operation lines' where
  last := final.last.sublist sub
  settled line member := final.settled line (sub.subset member)

/-- A line of another operation, or one that nothing of its own precedes with a result. -/
theorem Final.append {operation : OperationId} {lines : List (JournalLine β)}
    {line : JournalLine β} (final : Final operation lines)
    (fresh : line.operationId = operation →
      ∀ earlier ∈ lines, earlier.operationId = operation → earlier.result = none)
    (settled : line.result ≠ none → line.status ≠ .pending) :
    Final operation (lines ++ [line]) where
  last := by
    rw [List.pairwise_append]
    refine ⟨final.last, List.pairwise_singleton _ _, ?_⟩
    intro earlier member later only same held own
    rw [List.mem_singleton.mp only] at own
    exact held (fresh own earlier member same)
  settled other member same held := by
    rcases List.mem_append.mp member with member | member
    · exact final.settled other member same held
    · rw [List.mem_singleton.mp member] at held ⊢
      exact settled held

/-- The newest line of an operation is its stored result, if it has one. -/
theorem Final.latest {operation : OperationId} {lines : List (JournalLine β)}
    (final : Final operation lines) {line : JournalLine β} (member : line ∈ lines)
    (same : line.operationId = operation) (held : line.result ≠ none) :
    latest lines operation = some line := by
  induction lines using List.reverseRecOn with
  | nil => cases member
  | append_singleton rest newest ih =>
    have ordered := List.pairwise_append.mp final.last
    rw [JournalCompaction.latest, List.reverse_append, List.reverse_singleton,
      List.singleton_append, List.find?_cons]
    rcases List.mem_append.mp member with earlier | only
    · have other := ordered.2.2 line earlier newest (List.mem_singleton.mpr rfl) same held
      simp only [other, decide_false]
      exact ih (final.sublist (List.sublist_append_left _ _)) earlier
    · obtain rfl := List.mem_singleton.mp only
      simp [same]

theorem unanswered_fresh {operation : HostOperation} {lines : List (JournalLine β)}
    (final : Final operation.operationId lines) (once : operation.body.retriesFailure = false)
    (unanswered : storedAnswer operation lines = none) :
    ∀ line ∈ lines, line.operationId = operation.operationId → line.result = none := by
  intro line member same
  by_contra held
  have newest := final.latest member same held
  rw [storedAnswer, newest] at unanswered
  simp only [once, Bool.false_eq_true, and_false, not_false_eq_true, and_true] at unanswered
  rw [if_pos (final.settled line member same held)] at unanswered
  exact held unanswered

theorem storedAnswer_stored {operation : HostOperation} {lines : List (JournalLine β)}
    {outcome : HostOutcome β} (agrees : Agrees operation lines)
    (answer : storedAnswer operation lines = some outcome) :
    Stored lines operation.operationId operation.canonicalHash outcome := by
  unfold storedAnswer at answer
  cases newest : latest lines operation.operationId with
  | none => rw [newest] at answer; cases answer
  | some line =>
    obtain ⟨member, same⟩ := latest_mem newest
    rw [newest] at answer
    dsimp only at answer
    split_ifs at answer with terminal
    exact ⟨line, member, same, agrees line member same, answer⟩

section traces

variable (journal : TargetJournal β)

/-- The call added nothing but its pending line. -/
def Untouched (call : Call ρ β ω) (opened : List (JournalLine β)) (lines : List (JournalLine β)) :
    Prop :=
  lines.Sublist opened ∨ storedAnswer call.operation opened = none ∧
    lines.Sublist (opened ++ [pendingLine call.operation call.attempt.acceptedAt])

/-- The answers that the journal gives by itself. -/
def Refused (operation : HostOperation) (r : HostOutcome β) : Prop :=
  r = capacityRefusal ∨ ∃ accepted, r = conflictFor operation accepted

/-- What a call leaves in the file, where `opened` are the lines it decides on. -/
inductive Traced (call : Call ρ β ω) (scope : Scope β ω) (opened : List (JournalLine β)) :
    Outcome JournalError (HostOutcome β) → Scope β ω → Prop where
  | kept {o : Outcome JournalError (HostOutcome β)} {scope' : Scope β ω}
    (world : scope'.world = scope.world) (lines : Untouched call opened scope'.lines)
    (answer : ∀ r, o = .ok r → Refused call.operation r ∨
      Agrees call.operation opened ∧ storedAnswer call.operation opened = some r) :
    Traced call scope opened o scope'
  | executed {o : Outcome JournalError (HostOutcome β)} {scope' : Scope β ω}
    (unanswered : storedAnswer call.operation opened = none)
    (world : scope'.world = (call.execute call.attempt.execution scope.world).2)
    (answer : ∀ r, o = .ok r → (call.execute call.attempt.execution scope.world).1 = some r)
    (lines : scope'.lines.Sublist (opened ++
      [pendingLine call.operation call.attempt.acceptedAt]) ∨
      ∃ r, (call.execute call.attempt.execution scope.world).1 = some r ∧
        scope'.lines.Sublist (opened ++ [pendingLine call.operation call.attempt.acceptedAt] ++
          [terminalLine call.operation call.attempt.completedAt r])) :
    Traced call scope opened o scope'

/-- Accepting leaves the file as it is, up to a compaction, or adds the pending line. -/
theorem acceptOperation_lines (operation : HostOperation) (lines : List (JournalLine β))
    {e : Attempt ρ} {s : Scope β ω} :
    Program.Ensures (acceptOperation journal operation lines : Journaling ρ β ω _) e
      (fun _ s' => s'.world = s.world ∧
        s'.lines.Sublist (s.lines ++ [pendingLine operation e.acceptedAt])) s := by
  have grown := List.sublist_append_left s.lines
    [pendingLine (β := β) operation e.acceptedAt]
  unfold acceptOperation
  split_ifs with resumed
  · exact ⟨rfl, grown⟩
  simp only [Program.ensures_bind, Program.ensures_environment, Program.after_ok]
  split_ifs with full
  · exact ⟨rfl, grown⟩
  simp only [append, Program.ensures_bind, ensures_touch, Program.ensures_modify,
    Program.after_ok, Program.after_error, Program.after_crashed]
  refine ⟨fun _ => ?_, fun _ _ => ⟨trivial, grown⟩, fun _ => ⟨trivial, grown⟩⟩
  have both := (compactIfNeeded_world journal .compactPending (e := e)
    (s := { s with lines := s.lines ++ [pendingLine operation e.acceptedAt] })).and
      (compactIfNeeded_sublist journal .compactPending)
  refine both.mono ?_
  rintro (r | failure | _) s' ⟨world, sub⟩
  · exact ⟨world, sub⟩
  · exact ⟨world, sub⟩
  · exact ⟨world, sub⟩

theorem openJournal_lines {e : Attempt ρ} {s : Scope β ω} :
    Program.Ensures (openJournal journal : Journaling ρ β ω _) e
      (fun o s' => s'.world = s.world ∧ s'.lines.Sublist s.lines ∧
        ∀ lines, o = .ok lines → lines = s'.lines) s := by
  refine (openJournal_ensures journal).mono ?_
  rintro (lines | failure | _) s' ⟨opened, failed⟩
  · obtain ⟨same, world, settled⟩ := opened lines rfl
    exact ⟨world, settled.sublist, fun _ h => by cases h; exact same⟩
  · obtain ⟨world, same | settled⟩ := failed (by simp)
    · exact ⟨world, same ▸ List.Sublist.refl _, by simp⟩
    · exact ⟨world, settled.sublist, by simp⟩
  · obtain ⟨world, same | settled⟩ := failed (by simp)
    · exact ⟨world, same ▸ List.Sublist.refl _, by simp⟩
    · exact ⟨world, settled.sublist, by simp⟩

theorem call_traced (call : Call ρ β ω) (scope : Scope β ω) :
    ∃ opened : List (JournalLine β), opened.Sublist scope.lines ∧
      Traced call scope opened (call.run journal scope).1 (call.run journal scope).2 := by
  have opening := openJournal_lines journal (e := call.attempt) (s := scope)
  rcases h : openJournal journal call.attempt scope with ⟨lines | failure | _, opened⟩
  · rw [Program.Ensures, h] at opening
    have world : opened.world = scope.world := opening.1
    have sub : opened.lines.Sublist scope.lines := opening.2.1
    obtain rfl : lines = opened.lines := opening.2.2 lines rfl
    refine ⟨opened.lines, sub, ?_⟩
    rw [run_opened h]
    cases conflict : conflicting call.operation opened.lines with
    | some accepted =>
      exact .kept world (.inl (List.Sublist.refl _)) fun r same => by
        cases same
        exact .inl (.inr ⟨accepted, rfl⟩)
    | none =>
      have agrees := conflicting_none.mp conflict
      cases stored : storedAnswer call.operation opened.lines with
      | some result =>
        exact .kept world (.inl (List.Sublist.refl _)) fun r same => by
          cases same
          exact .inr ⟨agrees, stored⟩
      | none =>
        have accepting := acceptOperation_lines journal call.operation opened.lines
          (e := call.attempt) (s := opened)
        rcases accept : acceptOperation journal call.operation opened.lines call.attempt opened with
          ⟨refusal | failure | _, accepted⟩
        · have refusing := acceptOperation_ensures journal call.operation opened.lines
            (e := call.attempt) (s := opened)
          rw [Program.Ensures, accept] at accepting refusing
          obtain ⟨still, grown⟩ := accepting
          simp only [Program.run_bind_ok accept]
          cases refusal with
          | some refusal =>
            obtain ⟨rfl, -⟩ := refusing.2.1 refusal rfl
            exact .kept (still.trans world) (.inr ⟨stored, grown⟩) fun r same => by
              cases same
              exact .inl (.inl rfl)
          | none =>
            have here : accepted.world = scope.world := still.trans world
            rcases run : call.execute call.attempt.execution accepted.world with
              ⟨_ | outcome, world'⟩
            · have lost : executing call.execute call.attempt accepted =
                  (.crashed, { accepted with world := world' }) := by simp [executing, run]
              simp only [Program.run_bind_crashed lost]
              refine .executed stored ?_ (by simp) (.inl grown)
              rw [← here, run]
            · have answered : executing call.execute call.attempt accepted =
                  (.ok outcome, { accepted with world := world' }) := by simp [executing, run]
              simp only [Program.run_bind_ok answered]
              obtain ⟨recorded, same⟩ := recordOutcome_ensures journal call.operation outcome
                (e := call.attempt) (s := { accepted with world := world' })
              have ended := recordOutcome_sublist journal call.operation outcome
                (e := call.attempt) (s := { accepted with world := world' })
              refine .executed stored ?_ ?_ (.inr ⟨outcome, ?_, ?_⟩)
              · rw [← here, run]
                exact recorded
              · intro r answer
                rw [← here, run]
                exact congrArg some (same r answer)
              · rw [← here, run]
              · exact ended.trans (grown.append_right _)
        · rw [Program.Ensures, accept] at accepting
          simp only [Program.run_bind_error accept]
          exact .kept (accepting.1.trans world) (.inr ⟨stored, accepting.2⟩) (by simp)
        · rw [Program.Ensures, accept] at accepting
          simp only [Program.run_bind_crashed accept]
          exact .kept (accepting.1.trans world) (.inr ⟨stored, accepting.2⟩) (by simp)
  · rw [Program.Ensures, h] at opening
    have run : call.run journal scope = (.error failure, opened) := Program.run_bind_error h
    rw [run]
    exact ⟨opened.lines, opening.2.1, .kept opening.1 (.inl (List.Sublist.refl _)) (by simp)⟩
  · rw [Program.Ensures, h] at opening
    have run : call.run journal scope = (.crashed, opened) := Program.run_bind_crashed h
    rw [run]
    exact ⟨opened.lines, opening.2.1, .kept opening.1 (.inl (List.Sublist.refl _)) (by simp)⟩

end traces

section keeping

variable (journal : TargetJournal β) (call : Call ρ β ω) (scope : Scope β ω)

/-- Every line is one that was there or one of the call's own operation. -/
theorem line_own {line : JournalLine β} (member : line ∈ (call.run journal scope).2.lines) :
    line ∈ scope.lines ∨ line.operationId = call.operation.operationId := by
  rcases call_added call scope line member with before | rfl | ⟨outcome, -, -, rfl⟩
  · exact .inl before
  · exact .inr rfl
  · exact .inr rfl

/-- A call stores nothing under the ids of other operations. -/
theorem stored_other {operation : OperationId} (other : call.operation.operationId ≠ operation)
    {hash : Digest} {outcome : HostOutcome β}
    (stored : Stored (call.run journal scope).2.lines operation hash outcome) :
    Stored scope.lines operation hash outcome := by
  obtain ⟨line, member, same, facts⟩ := stored
  rcases line_own journal call scope member with before | own
  · exact ⟨line, before, same, facts⟩
  · exact absurd (own.symm.trans same) other

theorem final_other {operation : OperationId} (other : call.operation.operationId ≠ operation)
    (final : Final operation scope.lines) : Final operation (call.run journal scope).2.lines := by
  obtain ⟨opened, sub, traced⟩ := call_traced journal call scope
  have pending : Final operation
      (opened ++ [pendingLine call.operation call.attempt.acceptedAt]) :=
    (final.sublist sub).append (fun same => absurd same other) (by simp [pendingLine])
  generalize (call.run journal scope).1 = o at traced
  cases traced with
  | kept _ lines _ =>
    rcases lines with lines | ⟨-, lines⟩
    · exact final.sublist (lines.trans sub)
    · exact pending.sublist lines
  | executed _ _ _ lines =>
    rcases lines with lines | ⟨r, -, lines⟩
    · exact pending.sublist lines
    · exact (pending.append (fun same => absurd same other)
        (by cases r <;> simp [terminalLine])).sublist lines

/-- The two ways of a call of an operation whose results are all final. -/
inductive Replied : Outcome JournalError (HostOutcome β) → Scope β ω → Prop where
  /-- The call gave a stored answer or none, and stored nothing. -/
  | replayed {o : Outcome JournalError (HostOutcome β)} {scope' : Scope β ω}
    (world : scope'.world = scope.world)
    (stored : ∀ hash outcome, Stored scope'.lines call.operation.operationId hash outcome →
      Stored scope.lines call.operation.operationId hash outcome)
    (answer : ∀ r, o = .ok r → Refused call.operation r ∨
      Stored scope.lines call.operation.operationId call.operation.canonicalHash r) :
    Replied o scope'
  /-- The call executed, and its own result is the only one the file can hold. -/
  | executed {o : Outcome JournalError (HostOutcome β)} {scope' : Scope β ω}
    (world : scope'.world = (call.execute call.attempt.execution scope.world).2)
    (stored : ∀ hash outcome, Stored scope'.lines call.operation.operationId hash outcome →
      hash = call.operation.canonicalHash ∧
        (call.execute call.attempt.execution scope.world).1 = some outcome)
    (answer : ∀ r, o = .ok r → (call.execute call.attempt.execution scope.world).1 = some r) :
    Replied o scope'

variable {call scope}

/-- At most one result of such an operation is ever in the file, and a call that finds it does
not execute. -/
theorem call_replied (once : call.operation.body.retriesFailure = false)
    (final : Final call.operation.operationId scope.lines) :
    Final call.operation.operationId (call.run journal scope).2.lines ∧
      Replied call scope (call.run journal scope).1 (call.run journal scope).2 := by
  obtain ⟨opened, sub, traced⟩ := call_traced journal call scope
  have kept := final.sublist sub
  have pending : (storedAnswer call.operation opened = none) →
      Final call.operation.operationId
        (opened ++ [pendingLine call.operation call.attempt.acceptedAt]) :=
    fun unanswered => kept.append (fun _ => unanswered_fresh kept once unanswered)
      (by simp [pendingLine])
  have within : ∀ {lines : List (JournalLine β)} {hash outcome},
      lines.Sublist (opened ++ [pendingLine call.operation call.attempt.acceptedAt]) →
      Stored lines call.operation.operationId hash outcome →
      Stored opened call.operation.operationId hash outcome := by
    intro lines hash outcome grown stored
    obtain ⟨line, member, same, accepted, held⟩ := stored
    rcases List.mem_append.mp (grown.subset member) with before | after
    · exact ⟨line, before, same, accepted, held⟩
    · rw [List.mem_singleton.mp after] at held
      cases held
  generalize (call.run journal scope).1 = o at traced
  generalize (call.run journal scope).2 = scope' at traced
  cases traced with
  | kept world lines answer =>
    have replies : ∀ r, o = .ok r → Refused call.operation r ∨
        Stored scope.lines call.operation.operationId call.operation.canonicalHash r :=
      fun r same => (answer r same).imp_right fun found =>
        (storedAnswer_stored found.1 found.2).sublist sub
    rcases lines with lines | ⟨unanswered, lines⟩
    · exact ⟨kept.sublist lines, .replayed world
        (fun _ _ stored => stored.sublist (lines.trans sub)) replies⟩
    · exact ⟨(pending unanswered).sublist lines, .replayed world
        (fun _ _ stored => (within lines stored).sublist sub) replies⟩
  | executed unanswered world answer lines =>
    have fresh := unanswered_fresh kept once unanswered
    have nothing : ∀ {hash outcome}, ¬Stored opened call.operation.operationId hash outcome := by
      rintro hash outcome ⟨line, member, same, -, held⟩
      rw [fresh line member same] at held
      cases held
    rcases lines with lines | ⟨r, ran, lines⟩
    · exact ⟨(pending unanswered).sublist lines, .executed world
        (fun _ _ stored => absurd (within lines stored) nothing) answer⟩
    · refine ⟨((pending unanswered).append ?_ ?_).sublist lines, .executed world ?_ answer⟩
      · intro _ earlier member same
        rcases List.mem_append.mp member with before | after
        · exact fresh earlier before same
        · rw [List.mem_singleton.mp after]
          rfl
      · cases r <;> simp [terminalLine]
      · rintro hash outcome ⟨line, member, same, accepted, held⟩
        rcases List.mem_append.mp (lines.subset member) with before | after
        · exact absurd (within (List.Sublist.refl _) ⟨line, before, same, accepted, held⟩) nothing
        · rw [List.mem_singleton.mp after] at accepted held
          obtain rfl : r = outcome := Option.some.inj held
          exact ⟨accepted.symm, ran⟩

end keeping

/-! ## Runs of calls -/

section runs

variable (journal : TargetJournal β) (log : ω → List (Option (HostOutcome β)))
  {operation : OperationId}

/-- What the world logs is the results of the executions of the operation. -/
structure Logs (operation : OperationId) (call : Call ρ β ω) : Prop where
  own : call.operation.operationId = operation → ∀ world,
    log (call.execute call.attempt.execution world).2 =
      log world ++ [(call.execute call.attempt.execution world).1]
  other : call.operation.operationId ≠ operation → ∀ world,
    log (call.execute call.attempt.execution world).2 = log world

/-- The scope after the calls, each cut off anywhere. -/
def played (calls : List (Call ρ β ω)) (scope : Scope β ω) : Scope β ω :=
  calls.foldl (fun scope call => (call.run journal scope).2) scope

/-- A result in the file is that of the newest execution. -/
structure Newest (operation : OperationId) (scope : Scope β ω) : Prop where
  final : Final operation scope.lines
  stored : ∀ hash outcome, Stored scope.lines operation hash outcome →
    (log scope.world).getLast? = some (some outcome)

theorem newest_absent (world : ω) : Newest log operation (⟨[], world⟩ : Scope β ω) where
  final := ⟨List.Pairwise.nil, fun _ member => by cases member⟩
  stored hash outcome stored := by
    obtain ⟨line, member, -⟩ := stored
    cases member

theorem logs_other {call : Call ρ β ω} {scope : Scope β ω} (logs : Logs log operation call)
    (other : call.operation.operationId ≠ operation) :
    log (call.run journal scope).2.world = log scope.world := by
  rcases call_world journal call scope with same | executed
  · rw [same]
  · rw [executed, logs.other other]

variable {log}

theorem Newest.call {call : Call ρ β ω} {scope : Scope β ω} (newest : Newest log operation scope)
    (logs : Logs log operation call)
    (once : call.operation.operationId = operation →
      call.operation.body.retriesFailure = false) :
    Newest log operation (call.run journal scope).2 := by
  by_cases own : call.operation.operationId = operation
  · subst own
    obtain ⟨final, replied⟩ := call_replied journal (once rfl) newest.final
    refine ⟨final, ?_⟩
    generalize (call.run journal scope).1 = o at replied
    generalize (call.run journal scope).2 = scope' at replied ⊢
    cases replied with
    | replayed world stored _ =>
      intro hash outcome after
      rw [world]
      exact newest.stored hash outcome (stored hash outcome after)
    | executed world stored _ =>
      intro hash outcome after
      rw [world, logs.own rfl, List.getLast?_concat, (stored hash outcome after).2]
  · refine ⟨final_other journal call scope own newest.final, ?_⟩
    intro hash outcome after
    rw [logs_other journal log logs own]
    exact newest.stored hash outcome (stored_other journal call scope own after)

/-- The answer to a call is one of the journal's own, or the result of the newest execution. -/
theorem Newest.answer {call : Call ρ β ω} {scope : Scope β ω}
    (newest : Newest log call.operation.operationId scope)
    (logs : Logs log call.operation.operationId call)
    (once : call.operation.body.retriesFailure = false) {r : HostOutcome β}
    (answers : (call.run journal scope).1 = .ok r) :
    Refused call.operation r ∨
      (log (call.run journal scope).2.world).getLast? = some (some r) := by
  obtain ⟨-, replied⟩ := call_replied journal once newest.final
  generalize (call.run journal scope).1 = o at replied answers
  generalize (call.run journal scope).2 = scope' at replied ⊢
  cases replied with
  | replayed world _ answer =>
    rcases answer r answers with refused | stored
    · exact .inl refused
    · rw [world]
      exact .inr (newest.stored _ r stored)
  | executed world _ answer =>
    rw [world, logs.own rfl, List.getLast?_concat, answer r answers]
    exact .inr rfl

theorem played_newest (calls : List (Call ρ β ω))
    (logs : ∀ call ∈ calls, Logs log operation call)
    (once : ∀ call ∈ calls, call.operation.operationId = operation →
      call.operation.body.retriesFailure = false)
    {scope : Scope β ω} (newest : Newest log operation scope) :
    Newest log operation (played journal calls scope) := by
  induction calls generalizing scope with
  | nil => exact newest
  | cons call rest ih =>
    rw [List.forall_mem_cons] at logs once
    exact ih logs.2 once.2 (newest.call journal logs.1 once.1)

/-- Over every run of calls from an absent file: while the file holds a result of an operation
whose failure is final, the operation is not executed again, and whoever asks for it is given
that result or one of the journal's own refusals. -/
theorem stored_result_final (calls : List (Call ρ β ω)) (call : Call ρ β ω) (world : ω)
    (logs : ∀ other ∈ call :: calls, Logs log call.operation.operationId other)
    (once : ∀ other ∈ call :: calls,
      other.operation.operationId = call.operation.operationId →
        other.operation.body.retriesFailure = false) :
    (∀ hash outcome,
      Stored (played journal calls ⟨[], world⟩).lines call.operation.operationId hash outcome →
        (log (played journal calls ⟨[], world⟩).world).getLast? = some (some outcome)) ∧
      ∀ r, (call.run journal (played journal calls ⟨[], world⟩)).1 = .ok r →
        Refused call.operation r ∨
          (log (call.run journal (played journal calls ⟨[], world⟩)).2.world).getLast? =
            some (some r) := by
  rw [List.forall_mem_cons] at logs once
  have absent : Newest log call.operation.operationId ⟨[], world⟩ := newest_absent log world
  have newest := played_newest journal calls logs.2 once.2 absent
  exact ⟨newest.stored, fun r answers => newest.answer journal logs.1 (once.1 rfl) answers⟩

end runs

section inputs

/-- A snapshot whose every execution fails and is logged. -/
def failingSnapshot : Call Unit Bytes (List (Option (HostOutcome Bytes))) where
  operation := ⟨1, 7, .backupSnapshot⟩
  execute := fun _ log =>
    (some (.failed "BACKUP_FAILED" "first"), log ++ [some (.failed "BACKUP_FAILED" "first")])
  attempt := ⟨fun _ => .none, 0, 1, ()⟩

theorem failingSnapshot_logs : Logs id 1 failingSnapshot where
  own _ _ := rfl
  other different := absurd rfl different

theorem failing_snapshot_final :
    (∀ hash outcome,
      Stored (played productionJournal [failingSnapshot] ⟨[], []⟩).lines 1 hash outcome →
        (played productionJournal [failingSnapshot] ⟨[], []⟩).world.getLast? =
          some (some outcome)) ∧
      ∀ r, (failingSnapshot.run productionJournal
          (played productionJournal [failingSnapshot] ⟨[], []⟩)).1 = .ok r →
        Refused failingSnapshot.operation r ∨
          (failingSnapshot.run productionJournal
            (played productionJournal [failingSnapshot] ⟨[], []⟩)).2.world.getLast? =
              some (some r) := by
  refine @stored_result_final _ _ _ productionJournal id [failingSnapshot] failingSnapshot [] ?_ ?_
  · intro other member
    obtain rfl : other = failingSnapshot := by simpa using member
    exact failingSnapshot_logs
  · intro other member _
    obtain rfl : other = failingSnapshot := by simpa using member
    rfl

end inputs

end NazoAuthCtl.StoredAnswers
