import NazoAuthCtl.CrashResume
import NazoAuthCtl.UpdateUndo

/-!
# Whether a failed update leaves what the first attempt found

The undo of an attempt works from what this attempt has done and from the world it
began in. Over several attempts of one order it comes back to the world before the
first one only if the last attempt still found the original runtime, and rewrites
a config that an earlier attempt had already replaced.
-/

set_option autoImplicit false
set_option linter.all false

namespace NazoAuthCtl.UpdateAtomicity

open FaultProgram TargetState TargetWorld UpdateExec LifecycleDispatch UpdateAdmission UpdateSteps
  UpdateReplay UpdateResume CrashResume UpdateUndo
open Program

variable {job : UpdateJob} {plan : UpdatePlan} {e : Attempt} {w₀ w w' : World}
  {run run' : Running} {operation : OperationId}

/-- The world has seen nothing of this operation. -/
structure Unattempted (operation : OperationId) (w : World) : Prop where
  unsaved : (w.configSnapshots operation).record = none
  undecided : w.accepted operation = none
  unproduced : ∀ state, w.state = some state → ¬state.producedBy operation
  unfenced : ∀ state, w.state = some state →
    ∀ fence ∈ state.appliedMigration, fence.operationId ≠ operation

/-- The server lets no migration succeed in this attempt. -/
def Declines (e : Attempt) : Prop :=
  ∀ result ∈ e.oneShot.decides, result.outcome ≠ .succeeded

/-- The server holds no success of the operation. -/
def Declined (operation : OperationId) (w : World) : Prop :=
  ∀ result ∈ w.accepted operation, result.outcome ≠ .succeeded

/-- The state document names the operation as its producer. -/
def Committed (operation : OperationId) (w : World) : Prop :=
  ∃ state, w.state = some state ∧ state.producedBy operation

/-- The original config is on disk or in the completed snapshot of the operation. -/
structure ConfigKept (operation : OperationId) (original : Bytes) (w : World) : Prop where
  present : w.config.isSome
  unsaved : (w.configSnapshots operation).record = none → w.config = some original
  saved : (w.configSnapshots operation).record.isSome →
    (w.configSnapshots operation).bytes = some original

/-- What attempts of an unapplied update leave of the world they began in, runtime
aside, while no attempt has committed. -/
structure Recoverable (operation : OperationId) (w₀ : World) (run : Running) : Prop where
  declined : Declined operation run.world
  kept : Committed operation run.world ∨ run.world.state = w₀.state ∧
    ∀ original, w₀.config = some original → ConfigKept operation original run.world ∧
      (run.performed.wroteConfig = true → run.performed.snapshottedConfig = true)

theorem Unattempted.recoverable (h : Unattempted operation w₀) (performed : PerformedSteps)
    (unwritten : performed.wroteConfig = false) : Recoverable operation w₀ ⟨w₀, performed⟩ where
  declined result held := by simp [h.undecided] at held
  kept := .inr ⟨rfl, fun original present => ⟨⟨by simp [present], fun _ => present,
    fun saved => by simp [h.unsaved] at saved⟩, by simp [unwritten]⟩⟩

/-- Neither the runtime nor what else an attempt remembers matters. -/
theorem Recoverable.moved (h : Recoverable operation w₀ run)
    (accepted : run'.world.accepted = run.world.accepted)
    (state : run'.world.state = run.world.state) (config : run'.world.config = run.world.config)
    (snapshots : run'.world.configSnapshots = run.world.configSnapshots)
    (steps : run'.performed.wroteConfig = true → run.performed.wroteConfig = true ∧
      run'.performed.snapshottedConfig = run.performed.snapshottedConfig) :
    Recoverable operation w₀ run' where
  declined := by
    rw [Declined, accepted]
    exact h.declined
  kept := by
    rw [Committed, state]
    rcases h.kept with committed | ⟨same, kept⟩
    · exact .inl committed
    · refine .inr ⟨same, fun original present => ?_⟩
      obtain ⟨⟨some, unsaved, saved⟩, logged⟩ := kept original present
      refine ⟨⟨by rw [config]; exact some, by rw [config, snapshots]; exact unsaved,
        by rw [snapshots]; exact saved⟩, fun wrote => ?_⟩
      obtain ⟨wrote', snapshotted⟩ := steps wrote
      rw [snapshotted]
      exact logged wrote'

theorem Recoverable.afresh (h : Recoverable operation w₀ run) (performed : PerformedSteps)
    (unwritten : performed.wroteConfig = false) :
    Recoverable operation w₀ ⟨run.world, performed⟩ :=
  h.moved rfl rfl rfl rfl (by simp [unwritten])

/-! ## One attempt -/

theorem Snapshotted.kept {platform : Platform} {schema : ConfigSchema}
    {replacing : Option ConfigSchema} {current : Option Bytes} {original : Bytes}
    {o : Outcome Failure Unit} (h : ConfigKept operation original w)
    (source : current.or w.config = w.config)
    (snapshot : Snapshotted platform operation schema replacing current w o w') :
    ConfigKept operation original w' := by
  cases snapshot with
  | refused => exact h
  | lost => exact h
  | resumed => exact h
  | bytesOnly _ _ bytes found absent =>
    exact ⟨h.present, fun _ => h.unsaved absent, fun recorded => by simp [setSnapshot] at recorded⟩
  | saved bytes found absent =>
    have same : bytes = original := by
      rw [source, h.unsaved absent] at found
      exact (Option.some.inj found).symm
    exact ⟨h.present, fun absent => by simp [setSnapshot, completeSnapshot] at absent,
      fun _ => by simp [setSnapshot, completeSnapshot, same]⟩

/-- The bytes an admitted plan carries are those on disk. -/
theorem admission_source {platform : Platform}
    (admitted : admission platform job w = .ok (some plan)) :
    plan.currentConfig.or w.config = w.config := by
  obtain ⟨object, live, established⟩ := admission_some admitted
  obtain ⟨text, read, -⟩ := established.config
  generalize plan.currentConfig = current at read ⊢
  unfold updateConfig at read
  split at read
  · cases read
    rfl
  · cases read
  · rename_i bytes unstaged present
    split at read
    · cases read
      rw [present]
      rfl
    · cases read

theorem Recoverable.staged {platform : Platform} {o : Outcome Failure Unit}
    (h : Recoverable job.operationId w₀ run)
    (source : plan.currentConfig.or run.world.config = run.world.config)
    (staged : Staged platform job plan run o run') : Recoverable job.operationId w₀ run' where
  declined := by
    rw [Declined, staged.world]
    exact h.declined
  kept := by
    have state : run'.world.state = run.world.state := by rw [staged.world]
    rw [Committed, state]
    rcases h.kept with committed | ⟨same, kept⟩
    · exact .inl committed
    refine .inr ⟨same, fun original present => ?_⟩
    obtain ⟨config, logged⟩ := kept original present
    cases staged with
    | unsaved _ w₁ _ snapshot => exact ⟨Snapshotted.kept config source snapshot, logged⟩
    | unwritten w₁ saved _ =>
      rcases saved with ⟨some, snapshot⟩ | ⟨absent, -⟩
      · exact ⟨Snapshotted.kept config source snapshot, fun _ => by simp [savedSteps, some]⟩
      · exact absurd config.present (by simp [absent])
    | written w₁ staged saved _ =>
      rcases saved with ⟨some, snapshot⟩ | ⟨absent, -⟩
      · have after := Snapshotted.kept config source snapshot
        have complete := Snapshots.complete (s := updateStaging job plan) snapshot
        refine ⟨⟨rfl, fun absent => ?_, after.saved⟩, fun _ => by simp [savedSteps, some]⟩
        change (w₁.configSnapshots job.operationId).record = none at absent
        change (w₁.configSnapshots job.operationId).record.isSome at complete
        simp [absent] at complete
      · exact absurd config.present (by simp [absent])

/-- With a server that never reports success, a dispatch changes nothing of the
document, and only an order without a migration goes on. -/
theorem Dispatched.declined {o : Outcome Failure (Option ControlResult)}
    (h : Dispatched job plan e run o run') (declines : Declines e)
    (declined : Declined job.operationId run.world) :
    Declined job.operationId run'.world ∧ run'.world.state = run.world.state ∧
      run'.performed.migrationApplied = run.performed.migrationApplied ∧
      (o = .ok none → job.migrationJws = none) := by
  have recorded : ∀ decides, Decided e decides →
      Declined job.operationId (recordAccepted job.operationId decides run.world) := by
    intro decides decided result held
    rw [recordAccepted_apply, Option.mem_def, Option.or_eq_some_iff] at held
    rcases held with held | ⟨-, held⟩
    · exact declined result held
    · rcases decided with rfl | rfl
      · cases held
      · exact declines result held
  cases h with
  | notOrdered absent => exact ⟨declined, rfl, rfl, fun _ => absent⟩
  | unreached _ unfinished => exact ⟨declined, rfl, rfl, fun h => absurd h (unfinished _)⟩
  | unknown _ unfinished _ decides decided =>
    exact ⟨recorded decides decided, rfl, rfl, fun h => absurd h (unfinished _)⟩
  | rejected => exact ⟨declined, rfl, rfl, by simp⟩
  | failed _ _ decides decided => exact ⟨recorded decides decided, rfl, rfl, by simp⟩
  | unchanged result _ decides decided outcome answered =>
    exact absurd outcome (recorded decides decided result answered)
  | applied _ _ result _ decides decided outcome answered =>
    exact absurd outcome (recorded decides decided result answered)

theorem Recoverable.dispatched {o : Outcome Failure (Option ControlResult)}
    (h : Recoverable job.operationId w₀ run) (declines : Declines e)
    (dispatched : Dispatched job plan e run o run') : Recoverable job.operationId w₀ run' := by
  obtain ⟨declined, state, -⟩ := Dispatched.declined dispatched declines h.declined
  obtain ⟨snapshotted, wrote, -⟩ := Dispatched.steps dispatched
  have config : run'.world.config = run.world.config := by rw [dispatched.world]
  have snapshots : run'.world.configSnapshots = run.world.configSnapshots := by
    rw [dispatched.world]
  refine ⟨declined, ?_⟩
  rw [Committed, state]
  rcases h.kept with committed | ⟨same, kept⟩
  · exact .inl committed
  · refine .inr ⟨same, fun original present => ?_⟩
    obtain ⟨⟨some, unsaved, saved⟩, logged⟩ := kept original present
    rw [snapshotted, wrote]
    exact ⟨⟨by rw [config]; exact some, by rw [config, snapshots]; exact unsaved,
      by rw [snapshots]; exact saved⟩, logged⟩

theorem activating_logged {o : Outcome Failure Unit} (h : Activating job plan run o run') :
    run'.performed = { run.performed with
      replacedRuntime := run'.performed.replacedRuntime } := by
  cases h <;> rfl

theorem Recoverable.activating {o : Outcome Failure Unit}
    (h : Recoverable job.operationId w₀ run) (activating : Activating job plan run o run') :
    Recoverable job.operationId w₀ run' := by
  have logged := activating_logged activating
  refine h.moved ?_ ?_ ?_ ?_ fun wrote => ⟨?_, ?_⟩
  · rw [activating.world]
  · rw [activating.world]
  · rw [activating.world]
  · rw [activating.world]
  · rw [logged] at wrote
    exact wrote
  · rw [logged]

/-- A run that commits makes the operation the producer of the document, also when it
was so before. -/
theorem commit_produces {state state' : DeploymentState} {performed : PerformedSteps}
    (h : applyUpdateHealthyFromLive state job.expectedRevision (updateCommit job plan performed)
      plan.recordedCurrentWasLive = .ok state') : state'.producedBy job.operationId := by
  rcases applyUpdateHealthyFromLive_ok h with ⟨produced, rfl⟩ | ⟨-, committed⟩
  · exact produced
  · exact committed.produced

theorem Recoverable.carried {o : Outcome Failure UpdateExecution}
    (h : Recoverable job.operationId w₀ run) (declines : Declines e)
    (source : plan.currentConfig.or run.world.config = run.world.config)
    (carriedOut : CarriedOut job plan e run o run') : Recoverable job.operationId w₀ run' := by
  have begun : Recoverable job.operationId w₀ (retained plan run) :=
    h.moved rfl rfl rfl rfl fun wrote => by
      unfold retained retainRuntime at wrote ⊢
      split at wrote <;> exact ⟨wrote, rfl⟩
  cases carriedOut with
  | unstaged _ _ _ _ _ staged => exact begun.staged source staged
  | undispatched _ _ run₁ _ _ _ staged dispatched =>
    exact (begun.staged source staged).dispatched declines dispatched
  | migrationFailed run₁ _ result staged dispatched =>
    exact (begun.staged source staged).dispatched declines dispatched
  | unactivated _ _ run₁ run₂ _ _ _ staged dispatched activating =>
    exact ((begun.staged source staged).dispatched declines dispatched).activating activating
  | uncommitted _ _ run₁ run₂ _ staged dispatched activating =>
    exact ((begun.staged source staged).dispatched declines dispatched).activating activating
  | committed run₁ run₂ run₃ state state' staged dispatched activating confirmed before after =>
    have uncommitted :=
      ((begun.staged source staged).dispatched declines dispatched).activating activating
    exact ⟨uncommitted.declined, .inl ⟨state', rfl, commit_produces after⟩⟩

/-- Whatever one attempt does, what it leaves can still be recovered. -/
theorem Recoverable.ran {o : Outcome Failure UpdateExecution}
    (h : Recoverable job.operationId w₀ run) (declines : Declines e)
    (ran : Ran job e run o run') : Recoverable job.operationId w₀ run' := by
  have kept : ∀ w', KeptArtifacts run.world w' →
      Recoverable job.operationId w₀ { run with world := w' } := fun w' kept =>
    h.moved kept.accepted kept.state kept.config kept.snapshots fun wrote => ⟨wrote, rfl⟩
  cases ran with
  | refused _ _ w' keeps => exact kept w' keeps
  | noop w' keeps => exact kept w' keeps
  | carried plan admitted _ _ carriedOut =>
    have keeps := keepArtifact_kept plan.verified.runtimeArtifact run.world
    refine (kept _ keeps).carried declines ?_ carriedOut
    change plan.currentConfig.or (keepArtifact _ _).config = (keepArtifact _ _).config
    rw [keeps.config]
    exact admission_source admitted

theorem Recoverable.fenced (h : Recoverable operation w₀ ⟨w, {}⟩) (writer : WriterFenced w w') :
    Recoverable operation w₀ ⟨w', {}⟩ := by
  rcases writer with rfl | ⟨object, -, rfl⟩
  · exact h
  · exact h.moved rfl rfl rfl rfl (by simp)

theorem Recoverable.undone (h : Recoverable job.operationId w₀ run) :
    Recoverable job.operationId w₀
      ⟨(rollbackUpdate job run.performed e run.world).2, {}⟩ := by
  obtain ⟨o, w₁, undone, runtimeOnly⟩ := rollbackUpdate_ensures job run.performed e run.world
  suffices Recoverable job.operationId w₀ ⟨w₁, {}⟩ by
    refine this.moved ?_ ?_ ?_ ?_ (by simp) <;> rw [runtimeOnly]
  cases undone with
  | untouched => exact h.afresh _ rfl
  | kept => exact h.afresh _ rfl
  | restored _ wrote snapshotted bytes found recorded =>
    refine ⟨h.declined, h.kept.imp id fun ⟨same, kept⟩ => ⟨same, fun original present => ?_⟩⟩
    obtain ⟨config, -⟩ := kept original present
    have original : bytes = original := Option.some.inj (found.symm.trans (config.saved recorded))
    exact ⟨⟨rfl, fun _ => by rw [original], config.saved⟩, by simp⟩
  | removed wrote unsaved =>
    refine ⟨h.declined, h.kept.imp id fun ⟨same, kept⟩ => ⟨same, fun original present => ?_⟩⟩
    have := (kept original present).2 wrote
    simp [unsaved] at this

theorem Recoverable.concluded (h : Recoverable job.operationId w₀ run)
    (o : Outcome Failure UpdateExecution) :
    Ensures (concludeUpdate job run.performed o) e
      (fun _ w' => Recoverable job.operationId w₀ ⟨w', {}⟩) run.world := by
  have same := h.afresh {} rfl
  unfold concludeUpdate
  split
  · exact same
  · apply (concludeFailedMigration_ensures job run.performed _ e run.world).mono
    intro o' w' concluded
    cases concluded with
    | fenced _ _ _ writer => exact same.fenced writer
    | undone => exact h.undone
  · exact same
  · apply (concludeFailure_ensures job run.performed _ e run.world).mono
    intro o' w' concluded
    cases concluded with
    | fenced _ _ _ writer => exact same.fenced writer
    | unknown _ _ _ _ writer => exact same.fenced writer
    | undone => exact h.undone

/-! ## Any number of attempts -/

/-- Attempts of one order, however each of them ended: its process may have been lost
before the answer was recorded, so that the order is still pending. -/
def Attempts (order : UpdateOrder) : World → World → Prop :=
  Relation.ReflTransGen fun w w' => ∃ e, Declines e ∧ w' = (answerUpdate order e w).2

theorem Recoverable.answered {order : UpdateOrder}
    (h : Recoverable order.operationId w₀ ⟨w, {}⟩) (declines : Declines e) :
    Recoverable order.operationId w₀ ⟨(answerUpdate order e w).2, {}⟩ := by
  have key : Ensures (answerUpdate order) e
      (fun _ w' => Recoverable order.operationId w₀ ⟨w', {}⟩) w := by
    apply answerUpdate_ensures
    · exact fun o _ => h
    intro state job o run loaded precondition built own reached ran
    obtain ⟨current, secrets, -, -, -, rfl⟩ := updateJob_ok built
    have left := @Recoverable.ran (orderedJob order state current secrets) _ _ _ _ _
      (h.afresh (freshSteps _) rfl) declines ran
    apply (left.concluded o).mono
    intro o' w' h
    cases o' <;> exact h
  exact key

theorem Attempts.recoverable {order : UpdateOrder} (h : Attempts order w₀ w)
    (unattempted : Unattempted order.operationId w₀) :
    Recoverable order.operationId w₀ ⟨w, {}⟩ := by
  induction h with
  | refl => exact unattempted.recoverable {} rfl
  | tail _ attempt left =>
    obtain ⟨e, declines, rfl⟩ := attempt
    exact left.answered declines

/-! ## What a failed attempt leaves to undo -/

/-- What an attempt that has not committed leaves, and what it remembers of it. -/
structure Left (job : UpdateJob) (plan : UpdatePlan) (w : World) (run : Running) : Prop where
  unapplied : run.performed.migrationApplied = job.appliedMigrationOperationId.isSome
  state : run.world.state = w.state
  config : run.performed.wroteConfig = false → run.world.config = w.config
  snapshotted : w.config = none → run.performed.snapshottedConfig = false
  before : run.performed.runtimeBeforeChange = plan.before
  beforeRunning : plan.before.isSome →
    run.performed.runtimeBeforeChangeWasRunning = plan.observation.running
  runtime : run.performed.replacedRuntime = false → run.world.runtime = w.runtime
  replaced : run.performed.replacedRuntime = true →
    job.migrationJws = none ∧ plan.replacement.isSome
  core : job.runtimeKind.isContainer = false → runtimeCore run.world = runtimeCore w

theorem Left.begun (job : UpdateJob) (plan : UpdatePlan) (w : World) :
    Left job plan w (retained plan ⟨w, freshSteps job⟩) := by
  unfold retained retainRuntime
  cases before : plan.before with
  | none =>
    exact ⟨rfl, rfl, fun _ => rfl, fun _ => rfl, by rw [before]; rfl, by simp [before],
      fun _ => rfl, by simp [freshSteps], fun _ => rfl⟩
  | some replacement =>
    exact ⟨rfl, rfl, fun _ => rfl, fun _ => rfl, by rw [before], fun _ => rfl, fun _ => rfl,
      by simp [freshSteps], fun _ => rfl⟩

theorem Left.staged {platform : Platform} {o : Outcome Failure Unit} (h : Left job plan w run)
    (unwritten : run.performed.wroteConfig = false) (staged : Staged platform job plan run o run') :
    Left job plan w run' := by
  have state : run'.world.state = w.state := by
    rw [staged.world]
    exact h.state
  have runtime : run'.world.runtime = run.world.runtime := by rw [staged.world]
  have core : runtimeCore run'.world = runtimeCore run.world := by rw [runtimeCore, runtime]; rfl
  have config : run.world.config = w.config := h.config unwritten
  cases staged with
  | unsaved _ w₁ present snapshot =>
    refine ⟨h.unapplied, state, fun _ => ?_, h.snapshotted, h.before, h.beforeRunning,
      fun kept => runtime.trans (h.runtime kept), h.replaced, fun unit => core.trans (h.core unit)⟩
    rw [snapshot.world]
    exact config
  | unwritten w₁ saved _ =>
    refine ⟨h.unapplied, state, fun _ => ?_, fun absent => ?_, h.before, h.beforeRunning,
      fun kept => runtime.trans (h.runtime kept), h.replaced, fun unit => core.trans (h.core unit)⟩
    · rw [saved.world]
      exact config
    · simp [savedSteps, config, absent, h.snapshotted absent]
  | written w₁ staged saved _ =>
    refine ⟨h.unapplied, state, by simp, fun absent => ?_, h.before, h.beforeRunning,
      fun kept => runtime.trans (h.runtime kept), h.replaced, fun unit => core.trans (h.core unit)⟩
    simp [savedSteps, config, absent, h.snapshotted absent]

theorem dispatched_logged {o : Outcome Failure (Option ControlResult)}
    (h : Dispatched job plan e run o run') :
    run'.performed = { run.performed with
      migrationApplied := run'.performed.migrationApplied
      migrationResult := run'.performed.migrationResult
      migrationOutcomeUnknown := run'.performed.migrationOutcomeUnknown } := by
  cases h <;> rfl

theorem Left.dispatched {o : Outcome Failure (Option ControlResult)} (h : Left job plan w run)
    (declines : Declines e) (declined : Declined job.operationId run.world)
    (dispatched : Dispatched job plan e run o run') : Left job plan w run' := by
  obtain ⟨-, state, applied, -⟩ := Dispatched.declined dispatched declines declined
  have logged := dispatched_logged dispatched
  have config : run'.world.config = run.world.config := by rw [dispatched.world]
  have runtime : run'.world.runtime = run.world.runtime := by rw [dispatched.world]
  have core : runtimeCore run'.world = runtimeCore run.world := by rw [runtimeCore, runtime]; rfl
  exact {
    unapplied := applied.trans h.unapplied
    state := state.trans h.state
    config := fun unwritten => config.trans (h.config (by rw [logged] at unwritten; exact unwritten))
    snapshotted := fun absent => by rw [logged]; exact h.snapshotted absent
    before := by rw [logged]; exact h.before
    beforeRunning := fun present => by rw [logged]; exact h.beforeRunning present
    runtime := fun kept => runtime.trans (h.runtime (by rw [logged] at kept; exact kept))
    replaced := fun replaced => h.replaced (by rw [logged] at replaced; exact replaced)
    core := fun unit => core.trans (h.core unit) }

theorem Left.activating {o : Outcome Failure Unit} (h : Left job plan w run)
    (unordered : job.migrationJws = none) (activating : Activating job plan run o run') :
    Left job plan w run' := by
  have logged := activating_logged activating
  have planned : run'.performed.replacedRuntime = true →
      run.performed.replacedRuntime = true ∨ plan.replacement.isSome := by
    intro replaced
    cases activating with
    | notNeeded => exact .inl replaced
    | unstopped => exact .inl replaced
    | unreplaced _ _ _ planned => exact .inr (by simp [planned])
    | unstarted _ _ _ planned => exact .inr (by simp [planned])
    | activated _ planned => exact .inr (by simp [planned])
  have runtime : run'.performed.replacedRuntime = false →
      run.performed.replacedRuntime = false ∧ run'.world.runtime = run.world.runtime := by
    intro kept
    cases activating with
    | notNeeded => exact ⟨kept, rfl⟩
    | unstopped => exact ⟨kept, rfl⟩
    | unreplaced => simp at kept
    | unstarted => simp at kept
    | activated => simp at kept
  exact {
    unapplied := by rw [logged]; exact h.unapplied
    state := by rw [activating.world]; exact h.state
    config := fun unwritten => by
      rw [activating.world]
      exact h.config (by rw [logged] at unwritten; exact unwritten)
    snapshotted := fun absent => by rw [logged]; exact h.snapshotted absent
    before := by rw [logged]; exact h.before
    beforeRunning := fun present => by rw [logged]; exact h.beforeRunning present
    runtime := fun kept => (runtime kept).2.trans (h.runtime (runtime kept).1)
    replaced := fun replaced => (planned replaced).elim h.replaced fun some => ⟨unordered, some⟩
    core := fun unit => (Activating.core activating unit).trans (h.core unit) }

/-- An attempt that ends without having activated leaves what it remembers. -/
theorem CarriedOut.left {o : Outcome Failure UpdateExecution} (declines : Declines e)
    (declined : Declined job.operationId w)
    (carriedOut : CarriedOut job plan e ⟨w, freshSteps job⟩ o run)
    (inactive : ∀ facts, o ≠ .ok (.activated facts)) : Left job plan w run := by
  have begun := Left.begun job plan w
  have fresh : (retained plan ⟨w, freshSteps job⟩).performed.wroteConfig = false := by
    unfold retained retainRuntime
    cases plan.before <;> rfl
  have still : ∀ {o run₁}, Staged e.platform job plan (retained plan ⟨w, freshSteps job⟩) o run₁ →
      Declined job.operationId run₁.world := by
    intro o run₁ staged
    rw [Declined, staged.world]
    exact declined
  cases carriedOut with
  | unstaged _ _ _ _ _ staged => exact begun.staged fresh staged
  | undispatched _ _ run₁ _ _ _ staged dispatched =>
    exact (begun.staged fresh staged).dispatched declines (still staged) dispatched
  | migrationFailed run₁ _ result staged dispatched =>
    exact (begun.staged fresh staged).dispatched declines (still staged) dispatched
  | unactivated _ _ run₁ run₂ _ _ _ staged dispatched activating =>
    obtain ⟨-, -, -, unordered⟩ := Dispatched.declined dispatched declines (still staged)
    exact ((begun.staged fresh staged).dispatched declines (still staged) dispatched).activating
      (unordered rfl) activating
  | uncommitted _ _ run₁ run₂ _ staged dispatched activating =>
    obtain ⟨-, -, -, unordered⟩ := Dispatched.declined dispatched declines (still staged)
    exact ((begun.staged fresh staged).dispatched declines (still staged) dispatched).activating
      (unordered rfl) activating
  | committed => exact absurd rfl (inactive _)

/-- The attempt comes as far as its own write of the staged config, over a snapshot
that an earlier attempt has completed. -/
structure RewritesConfig (job : UpdateJob) (e : Attempt) (w : World) : Prop where
  unfenced : job.appliedMigrationOperationId = none
  staged : job.config.isSome
  unfaulted : AdmissionUnfaulted e
  admitted : ∃ plan, admission e.platform job w = .ok (some plan)
  read : e.faults (.readSnapshot .change) = .none
  snapshot : ∃ record, (w.configSnapshots job.operationId).record = some record ∧
    record.schema = snapshotMetaSchema ∧ record.operationId = job.operationId ∧
    resumedSnapshotMatches e.platform (w.configSnapshots job.operationId) record job.configSchema
      (job.config.map (·.schema))
  written : e.faults (.writeConfig .change) = .none

/-- What comes after the config write never forgets it. -/
def Wrote (run run' : Running) : Prop :=
  run.performed.wroteConfig = true → run'.performed.wroteConfig = true

/-- Everything after the staging. -/
theorem keeps_wrote_rest (job : UpdateJob) (plan : UpdatePlan) :
    Keeps (do
      match ← dispatchMigration job plan with
      | some result => Pure.pure (UpdateExecution.migrationFailed result)
      | none =>
        activateRuntime job plan
        let facts ← confirmAndCommit job plan
        Pure.pure (UpdateExecution.activated facts)) Wrote := by
  have refl : ∀ run, Wrote run run := fun _ wrote => wrote
  have trans : ∀ run₁ run₂ run₃, Wrote run₁ run₂ → Wrote run₂ run₃ → Wrote run₁ run₃ :=
    fun _ _ _ h h' wrote => h' (h wrote)
  refine keeps_bind trans (fun e run wrote => ?_) fun failed => ?_
  · rw [dispatched_logged (dispatchMigration_ensures job plan e run)]
    exact wrote
  cases failed with
  | some result => exact keeps_pure refl _
  | none =>
    refine keeps_bind trans (fun e run wrote => ?_) fun _ => keeps_bind trans
      (fun e run wrote => ?_) fun _ => keeps_pure refl _
    · rw [activating_logged (activateRuntime_ensures job plan e run)]
      exact wrote
    · rcases confirmAndCommit_ensures job plan e run with ⟨-, same⟩ | ⟨_, _, -, -, -, -, same⟩
      · rw [same]
        exact wrote
      · rw [same]
        exact wrote

theorem snapshotConfig_resumed {schema : ConfigSchema} {replacing : Option ConfigSchema}
    {current : Option Bytes} {record : ConfigSnapshotMeta}
    (read : e.faults (.readSnapshot .change) = .none)
    (present : (w.configSnapshots operation).record = some record)
    (obsolete : record.schema = snapshotMetaSchema) (owner : record.operationId = operation)
    (matched : resumedSnapshotMatches e.platform (w.configSnapshots operation) record schema
      replacing) : snapshotConfig operation schema replacing current e w = (.ok (), w) := by
  unfold snapshotConfig
  rw [run_bind_ok run_environment, run_bind_ok (perform_none _ _ _ read)]
  simp [run_bind, run_require, present, obsolete, owner, matched]

theorem stageConfig_rewrites (rewrites : RewritesConfig job e w) (plan : UpdatePlan)
    (snapshots : run.world.configSnapshots = w.configSnapshots) :
    Ensures (stageConfig job plan) e (fun _ run' => run'.performed.wroteConfig = true) run := by
  obtain ⟨staged, hstaged⟩ := Option.isSome_iff_exists.mp rewrites.staged
  obtain ⟨record, present, obsolete, owner, matched⟩ := rewrites.snapshot
  rw [← snapshots] at present matched
  have written : ∀ run₁ : Running, Ensures (writeStagedConfig job) e
      (fun _ run' => run'.performed.wroteConfig = true) run₁ := by
    intro run₁
    simp [writeStagedConfig, hstaged, writeConfig, grantRuntimeConfigRead, ensures_bind,
      ensures_perform, rewrites.written]
  unfold stageConfig saveCurrentConfig
  simp only [ensures_bind, ensures_get, after_ok, ensures_onlyIf, ensures_onWorld]
  refine ⟨fun _ => ?_, fun _ => written run⟩
  unfold Ensures
  rw [snapshotConfig_resumed rewrites.read present obsolete owner matched]
  exact written _

theorem runUpdate_rewrites (rewrites : RewritesConfig job e w) :
    (runUpdate job e ⟨w, freshSteps job⟩).2.performed.wroteConfig = true := by
  obtain ⟨plan, admitted⟩ := rewrites.admitted
  have answer := admitUpdate_run rewrites.unfaulted job w
  rw [admitted] at answer
  have left := (admitUpdate_ensures job e w).2 (some plan) answer
  have kept := (keepArtifact_kept plan.verified.runtimeArtifact w).snapshots
  rcases reached : admitUpdate job e w with ⟨o, w₁⟩
  rw [reached] at answer left
  obtain rfl : o = .ok (some plan) := answer
  obtain rfl : w₁ = keepArtifact plan.verified.runtimeArtifact w := left.2 plan rfl
  unfold runUpdate
  rw [run_bind_ok (by rw [run_onWorld, reached])]
  change Ensures (carryOut job plan) e (fun _ run => run.performed.wroteConfig = true) _
  unfold carryOut
  rw [ensures_bind, ensures_note, after_ok, ensures_bind]
  apply (stageConfig_rewrites rewrites plan kept).mono
  intro o run wrote
  cases o with
  | ok _ => exact keeps_wrote_rest job plan e run wrote
  | error x => exact wrote
  | crashed => exact wrote

/-! ## The undo of the last attempt -/

/-- Undoing a replacement of this object brings exactly this object back. A container
is created anew from what inspection shows of it; a unit is started in any case. -/
def ComesBack (platform : Platform) (kind : RuntimeBackendKind) (object : RuntimeObject) : Prop :=
  if kind.isContainer then
    safeEnvironment object.environment = object.environment ∧
      (object.running = true ∨ platform.reportsStoppedPorts = true ∨ object.ports = [])
  else object.running = true

/-- What the undo of the last attempt needs of the world this attempt finds. -/
structure UndoSound (job : UpdateJob) (e : Attempt) (w₀ w : World) : Prop where
  runtime : w.runtime = w₀.runtime
  state : w.state = w₀.state
  config : w.config = w₀.config ∨ w₀.config.isSome ∧ RewritesConfig job e w
  comesBack : job.migrationJws = none → ∀ plan, admission e.platform job w = .ok (some plan) →
    plan.replacement.isSome → ∀ object, w.runtime = some object →
      ComesBack e.platform job.runtimeKind object

theorem ConfigUndone.original {performed : PerformedSteps} {w₁ : World}
    (h : ConfigUndone job performed w (.ok ()) w₁)
    (kept : ∀ original, w₀.config = some original → ConfigKept job.operationId original w ∧
      (performed.wroteConfig = true → performed.snapshottedConfig = true))
    (config : performed.wroteConfig = false → w.config = w₀.config)
    (snapshotted : w₀.config = none → performed.snapshottedConfig = false) :
    w₁.config = w₀.config ∧ w₁.runtime = w.runtime ∧ w₁.state = w.state := by
  cases h with
  | untouched unwritten => exact ⟨config unwritten, rfl, rfl⟩
  | kept _ unfinished => exact absurd rfl unfinished
  | restored _ wrote saved bytes found recorded =>
    refine ⟨?_, rfl, rfl⟩
    cases present : w₀.config with
    | none => simp [snapshotted present] at saved
    | some original => exact ((kept original present).1.saved recorded).symm.trans found |>.symm
  | removed wrote unsaved =>
    refine ⟨?_, rfl, rfl⟩
    cases present : w₀.config with
    | none => rfl
    | some original => simp [(kept original present).2 wrote] at unsaved

/-- A container created from everything inspection shows of one. -/
theorem created_observed {platform : Platform} {kind : RuntimeBackendKind} {object : RuntimeObject}
    {deploymentId : DeploymentId} (container : kind.isContainer)
    (owned : Owned kind deploymentId object) (comesBack : ComesBack platform kind object) :
    createdObject (surfaceWith (observation platform kind object)
      (observation platform kind object).artifact) = object.halted := by
  rw [ComesBack, if_pos container] at comesBack
  obtain ⟨safe, ports⟩ := comesBack
  have command := owned.serverCommand
  have shown : (if object.running = true ∨ platform.reportsStoppedPorts = true then object.ports
      else []) = object.ports := by
    rcases ports with running | reports | empty
    · rw [if_pos (.inl running)]
    · rw [if_pos (.inr reports)]
    · rw [empty, ite_self]
  rcases object with ⟨artifact, serverCommand, running, ports, networks, mounts, environment, labels⟩
  simp only at command safe shown
  simp [createdObject, surfaceWith, observation, RuntimeObject.halted, container, safe, shown,
    command]

theorem relaunched {object : RuntimeObject} {digest : Digest} {kind : RuntimeBackendKind}
    {platform : Platform} (recorded : (observation platform kind object).digest = some digest)
    (running : object.running = true) : (object.halted.withBinary digest).launched = object := by
  rcases object with ⟨artifact, serverCommand, up, ports, networks, mounts, environment, labels⟩
  simp only at running
  cases artifact with
  | hostBinary path found =>
    cases recorded
    simp [RuntimeObject.withBinary, RuntimeObject.halted, RuntimeObject.launched, running]
  | oci repository found =>
    simp [RuntimeObject.withBinary, RuntimeObject.halted, RuntimeObject.launched, running]
  | unknown => cases recorded

/-- The runtime half of the undo brings back the object the attempt found. -/
theorem Left.restored {object : RuntimeObject} {live : Digest} {w₁ : World}
    (h : Left job plan w run) (established : Admitted e.platform job w plan object live)
    (planned : plan.replacement.isSome) (comesBack : ComesBack e.platform job.runtimeKind object)
    (same : w₁.runtime = run.world.runtime)
    (restored : restoreRuntimeBeforeChange job.runtimeKind job.currentArtifact job.runtimeRoot
      run.performed e w₁ = (.ok (), w')) : w'.runtime = w.runtime := by
  rw [established.present]
  cases container : job.runtimeKind.isContainer with
  | true =>
    obtain ⟨replacement, before, runtime, -⟩ := restoreRuntime_container container restored
    rw [h.before] at before
    have retained : replacement = surfaceWith plan.observation plan.observation.artifact := by
      rcases planReplacement_ok established.replacement with ⟨-, absent, -⟩ | ⟨-, -, hbefore⟩
      · simp [absent] at planned
      · rw [before, if_pos container] at hbefore
        exact Option.some.inj hbefore
    rw [runtime, h.beforeRunning (by simp [before]), retained, established.observed,
      created_observed container established.owned comesBack]
    rcases object with ⟨artifact, serverCommand, running, ports, networks, mounts, environment, labels⟩
    cases running <;> rfl
  | false =>
    have host : job.runtimeKind = .host := by
      cases kind : job.runtimeKind <;> simp_all [RuntimeBackendKind.isContainer]
    rw [host] at restored
    obtain ⟨found, present, runtime⟩ := restoreRuntime_unit restored
    have core := h.core container
    rw [runtimeCore, runtimeCore, ← same, present, established.present] at core
    have binary := congrArg (·.withBinary job.currentArtifact) (Option.some.inj core)
    simp only [withBinary_withBinary] at binary
    rw [ComesBack, if_neg (by simp [container])] at comesBack
    have recorded := established.digest
    rw [established.continuity host, established.observed] at recorded
    rw [runtime, binary, relaunched recorded comesBack]

/-- `execute_update` has failed, with a known outcome. -/
def Fails (o : Outcome Failure UpdateExecution) : Prop :=
  (∃ failure, o = .error failure ∧ failure.code ≠ .controlOutcomeUnknown) ∨
    ∃ result, o = .ok (.migrationFailed result)

theorem Fails.of_concluded {performed : PerformedSteps} {o : Outcome Failure UpdateExecution}
    (h : Fails (concludeUpdate job performed o e w).1) :
    (∃ failure, o = .error failure) ∨ ∃ result, o = .ok (.migrationFailed result) := by
  cases o with
  | crashed => rcases h with ⟨_, h, -⟩ | ⟨_, h⟩ <;> cases h
  | error failure => exact .inl ⟨failure, rfl⟩
  | ok execution =>
    cases execution with
    | migrationFailed result => exact .inr ⟨result, rfl⟩
    | noop revision => rcases h with ⟨_, h, -⟩ | ⟨_, h⟩ <;> cases h
    | activated facts => rcases h with ⟨_, h, -⟩ | ⟨_, h⟩ <;> cases h
    | recoveryRequired result detail => rcases h with ⟨_, h, -⟩ | ⟨_, h⟩ <;> cases h

/-- A failure with no migration applied and a known outcome has been undone. -/
theorem Fails.undone {performed : PerformedSteps} {o : Outcome Failure UpdateExecution}
    (h : Fails (concludeUpdate job performed o e w).1)
    (unapplied : performed.migrationApplied = false) :
    (concludeUpdate job performed o e w).2 = (rollbackUpdate job performed e w).2 := by
  rcases h.of_concluded with ⟨failure, rfl⟩ | ⟨result, rfl⟩
  · have concluded := concludeFailure_ensures job performed failure e w
    change Fails (concludeFailure job performed failure e w).1 at h
    change (concludeFailure job performed failure e w).2 = _
    rw [Ensures] at concluded
    generalize concludeFailure job performed failure e w = ended at h concluded
    rcases ended with ⟨o', w'⟩
    cases concluded with
    | fenced applied => simp [unapplied] at applied
    | unknown _ _ _ _ _ answer =>
      rcases answer with rfl | ⟨detail, rfl⟩
      · rcases h with ⟨_, h, -⟩ | ⟨_, h⟩ <;> cases h
      · rcases h with ⟨_, h, known⟩ | ⟨_, h⟩ <;> cases h
        exact absurd rfl known
    | undone => rfl
  · have concluded := concludeFailedMigration_ensures job performed result e w
    change (concludeFailedMigration job performed result e w).2 = _
    rw [Ensures] at concluded
    generalize concludeFailedMigration job performed result e w = ended at concluded
    rcases ended with ⟨o', w'⟩
    cases concluded with
    | fenced applied => simp [unapplied] at applied
    | undone => rfl

theorem Left.from_kept (h : Left job plan w run) (kept : KeptArtifacts w₀ w) :
    Left job plan w₀ run where
  unapplied := h.unapplied
  state := h.state.trans kept.state
  config unwritten := (h.config unwritten).trans kept.config
  snapshotted absent := h.snapshotted (kept.config.trans absent)
  before := h.before
  beforeRunning := h.beforeRunning
  runtime unreplaced := (h.runtime unreplaced).trans kept.runtime
  replaced := h.replaced
  core unit := by
    rw [h.core unit, runtimeCore, kept.runtime]
    rfl

/-- A failed run was refused before it did anything, or left what it remembers. -/
theorem Ran.left {o : Outcome Failure UpdateExecution} (declines : Declines e)
    (declined : Declined job.operationId w) (ran : Ran job e ⟨w, freshSteps job⟩ o run)
    (failed : (∃ failure, o = .error failure) ∨ ∃ result, o = .ok (.migrationFailed result)) :
    (run.performed = freshSteps job ∧ KeptArtifacts w run.world) ∨
      ∃ plan, admission e.platform job w = .ok (some plan) ∧ Left job plan w run := by
  cases ran with
  | refused _ _ w₁ kept => exact .inl ⟨rfl, kept⟩
  | noop w₁ => rcases failed with ⟨_, h⟩ | ⟨_, h⟩ <;> cases h
  | carried plan admitted _ _ carriedOut =>
    have kept := keepArtifact_kept plan.verified.runtimeArtifact w
    have inactive : ∀ facts, o ≠ .ok (.activated facts) := by
      rintro facts rfl
      rcases failed with ⟨_, h⟩ | ⟨_, h⟩ <;> cases h
    refine .inr ⟨plan, admitted, (CarriedOut.left declines ?_ carriedOut inactive).from_kept kept⟩
    rw [Declined, kept.accepted]
    exact declined

/-- A completed undo of what a failed run left. -/
theorem Left.undone (h : Left job plan w run) (recoverable : Recoverable job.operationId w₀ run)
    (uncommitted : ¬Committed job.operationId w₀) (sound : UndoSound job e w₀ w)
    (rewrites : RewritesConfig job e w → run.performed.wroteConfig = true)
    (admitted : admission e.platform job w = .ok (some plan))
    (undone : rollbackUpdate job run.performed e run.world = (.ok (), w')) : SameEnd w₀ w' := by
  have state : run.world.state = w₀.state := h.state.trans sound.state
  have kept : ∀ original, w₀.config = some original →
      ConfigKept job.operationId original run.world ∧
        (run.performed.wroteConfig = true → run.performed.snapshottedConfig = true) := by
    rcases recoverable.kept with committed | ⟨-, kept⟩
    · rw [Committed, state] at committed
      exact absurd committed uncommitted
    · exact kept
  have config : run.performed.wroteConfig = false → run.world.config = w₀.config := by
    intro unwritten
    rcases sound.config with same | ⟨-, again⟩
    · exact (h.config unwritten).trans same
    · simp [rewrites again] at unwritten
  have snapshotted : w₀.config = none → run.performed.snapshottedConfig = false := by
    intro absent
    rcases sound.config with same | ⟨present, -⟩
    · exact h.snapshotted (same.trans absent)
    · simp [absent] at present
  obtain ⟨w₁, configUndone, replaced, unreplaced⟩ := rollbackUpdate_ok undone
  obtain ⟨config₁, runtime₁, state₁⟩ := ConfigUndone.original configUndone kept config snapshotted
  cases hreplaced : run.performed.replacedRuntime with
  | false =>
    rw [unreplaced hreplaced]
    exact ⟨state₁.trans state, config₁,
      runtime₁.trans ((h.runtime hreplaced).trans sound.runtime)⟩
  | true =>
    have restored := replaced hreplaced
    have only : RuntimeOnly w₁ w' := by
      have := keeps_restoreRuntime job.runtimeKind job.currentArtifact job.runtimeRoot
        run.performed e w₁
      rwa [restored] at this
    obtain ⟨unordered, planned⟩ := h.replaced hreplaced
    obtain ⟨object, live, established⟩ := admission_some admitted
    have comesBack := sound.comesBack unordered plan admitted planned object established.present
    have runtime := h.restored established planned comesBack runtime₁ restored
    refine ⟨?_, ?_, runtime.trans sound.runtime⟩
    · rw [only]
      exact state₁.trans state
    · rw [only]
      exact config₁

/-- An update whose last attempt fails after any number of attempts, none of which
found the migration applied, and whose undo calls succeed. -/
structure FailedUpdate (order : UpdateOrder) (job : UpdateJob) (e : Attempt) (w₀ w : World) :
    Prop where
  unattempted : Unattempted order.operationId w₀
  attempts : Attempts order w₀ w
  built : ∃ state, w.state = some state ∧ updateJob order state = .ok job
  declines : Declines e
  fails : Fails (executeUpdate job e w).1
  undone : (rollbackUpdate job (runUpdate job e ⟨w, freshSteps job⟩).2.performed e
    (runUpdate job e ⟨w, freshSteps job⟩).2.world).1 = .ok ()

def failingAt (platform : Platform) (label : Effect) : Attempt :=
  { undisturbed platform with faults := fun l => if l = label then .fail "refused" else .none }

/-- A world after an attempt of the sample update that was cut off. -/
def lostAt (config : Option StagedConfig) (label : Effect) (w : World) : World :=
  (answerUpdate (updateOrder config) (cutAt twoReleases label) w).2

/-- The sample unit, not running. -/
def stoppedUnit : World :=
  { deployed .host with runtime := some (deployedObject .host).halted }

theorem deployed_unattempted (kind : RuntimeBackendKind) : Unattempted 7 (deployed kind) where
  unsaved := rfl
  undecided := rfl
  unproduced := by
    rintro _ ⟨⟩
    cases kind <;> decide
  unfenced := by
    rintro _ ⟨⟩
    simp [deployedState]

theorem declines_none {e : Attempt} (h : e.oneShot.decides = none) : Declines e := by
  simp [Declines, h]

end NazoAuthCtl.UpdateAtomicity
