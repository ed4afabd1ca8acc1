import NazoAuthCtl.UpdateResume

/-!
# Resuming a rollback after crashes

A rollback saves the config it starts from, puts the paired config in its place
and replaces the runtime without stopping it. A container engine refuses to remove
a running source, so a completed rollback of a container began with a stopped one.
-/

set_option autoImplicit false
set_option linter.all false

namespace NazoAuthCtl.RollbackResume

open FaultProgram TargetState TargetWorld UpdateExec RollbackExec LifecycleDispatch UpdateSteps
  UpdateCompletion UpdateResume
open Program

variable {job : RollbackJob} {plan : RollbackPlan} {e : Attempt} {w₀ w w' : World}
  {run run' : Running}

/-- A saved config that can be put back: its two files agree. -/
def Restorable (platform : Platform) (operation : OperationId) (w : World) (bytes : Bytes)
    (schema : ConfigSchema) : Prop :=
  ∃ record, w.configSnapshots operation = ⟨some bytes, some record⟩ ∧
    record.schema = snapshotMetaSchema ∧ record.operationId = operation ∧
    platform.sha256 bytes = record.contentSha256 ∧ record.configSchema = schema

theorem readRestorableSnapshot_ensures (site : Site) (operation : OperationId) (code : FailureCode)
    (e : Attempt) (w : World) :
    Ensures (readRestorableSnapshot site operation code) e (fun o w' => w' = w ∧
      ∀ bytes schema, o = .ok (some (bytes, schema)) →
        Restorable e.platform operation w bytes schema) w := by
  unfold readRestorableSnapshot
  simp only [ensures_perform, ensures_bind, ensures_environment, ensures_get, after_ok]
  refine ⟨fun _ => ?_, by simp, by simp⟩
  rcases hs : w.configSnapshots operation with ⟨bytes, record⟩
  cases record with
  | none => simp
  | some record =>
    cases bytes with
    | none => simp
    | some bytes =>
      simp only [ensures_bind, ensures_require, after_ok, after_error, ensures_pure]
      refine ⟨fun schema => ⟨fun owner => ⟨fun digest => ⟨trivial, ?_⟩, by simp⟩, by simp⟩, by simp⟩
      rintro _ _ ⟨⟩
      exact ⟨record, hs, schema, owner, digest, rfl⟩

theorem readRestorableSnapshot_run {site : Site} {operation : OperationId} {code : FailureCode}
    {bytes : Bytes} {schema : ConfigSchema} (clean : e.clean)
    (h : Restorable e.platform operation w bytes schema) :
    readRestorableSnapshot site operation code e w = (.ok (some (bytes, schema)), w) := by
  obtain ⟨record, saved, obsolete, owner, digest, rfl⟩ := h
  unfold readRestorableSnapshot
  rw [perform_none _ _ _ (clean _), run_bind_ok run_environment, run_bind_ok run_get]
  simp only [saved]
  rw [run_bind_ok (by rw [run_require, if_pos obsolete]),
    run_bind_ok (by rw [run_require, if_pos owner]),
    run_bind_ok (by rw [run_require, if_pos digest])]
  rfl

/-! ## Admission -/

/-- What an admitted rollback has established about the world it started in. -/
structure RollbackAdmitted (platform : Platform) (job : RollbackJob) (w : World)
    (plan : RollbackPlan) (object : RuntimeObject) : Prop where
  previous : job.previousArtifact = some plan.previous
  present : w.runtime = some object
  observed : plan.observation = observation platform job.runtimeKind object
  serves : requireObservationServes plan.observation job.currentArtifact = .ok ()
  before : (if job.runtimeKind.isContainer then
      (exactReplacementFromObservation plan.observation).map some else .ok none) = .ok plan.before
  artifact : previousRuntimeArtifact job.runtimeKind plan.observation job.runtimeRoot
    plan.previous w = .ok plan.artifact
  paired : ∃ snapshot, job.previousConfigSnapshot = some snapshot ∧
    Restorable platform snapshot w plan.restored plan.restoredSchema

theorem admitRollback_ensures (job : RollbackJob) (e : Attempt) (w : World) :
    Ensures (admitRollback job) e (fun o w' => w' = w ∧ ∀ plan, o = .ok plan →
      ∃ object, RollbackAdmitted e.platform job w plan object) w := by
  unfold admitRollback privilegeGate inspect
  simp only [ensures_bind, ensures_perform, ensures_pure, after_ok, after_error, after_crashed]
  refine ⟨fun _ => ?_, by simp, by simp⟩
  cases previous : job.previousArtifact with
  | none => simp
  | some digest =>
    simp only [ensures_bind, ensures_perform, ensures_environment, ensures_get, after_ok,
      after_error, after_crashed]
    refine ⟨fun _ => ?_, by simp, by simp⟩
    cases present : w.runtime with
    | none => simp
    | some object =>
      simp only [ensures_pure, after_ok, ensures_bind, ensures_ofExcept, after_error,
        ensures_perform, ensures_get, after_crashed]
      refine ⟨fun _ serves => ⟨fun before hbefore => ⟨fun _ => ⟨fun artifact hartifact => ?_,
        by simp⟩, by simp, by simp⟩, by simp⟩, by simp⟩
      cases hsnapshot : job.previousConfigSnapshot with
      | none => simp
      | some snapshot =>
        simp only [ensures_bind]
        apply (readRestorableSnapshot_ensures _ snapshot _ e w).mono
        rintro (read | x | _) w₁ ⟨rfl, restorable⟩
        · cases read with
          | none => simp
          | some read =>
            obtain ⟨bytes, schema⟩ := read
            simp only [after_ok, ensures_pure]
            refine ⟨trivial, ?_⟩
            rintro _ ⟨⟩
            exact ⟨object, {
              previous := previous, present := present, observed := rfl, serves := serves,
              before := hbefore, artifact := hartifact
              paired := ⟨snapshot, hsnapshot, restorable bytes schema rfl⟩ }⟩
        · simp
        · simp

theorem admitRollback_run {object : RuntimeObject} (clean : e.clean)
    (h : RollbackAdmitted e.platform job w plan object) :
    admitRollback job e w = (.ok plan, w) := by
  obtain ⟨snapshot, hsnapshot, restorable⟩ := h.paired
  unfold admitRollback UpdateExec.privilegeGate
  rw [run_bind_ok (perform_none _ _ _ (clean _))]
  simp only [h.previous]
  rw [run_bind_ok (inspect_some (clean _) h.present)]
  simp only [← h.observed]
  rw [run_bind_ok (by rw [h.serves, run_ofExcept_ok]),
    run_bind_ok (by rw [h.before, run_ofExcept_ok]),
    run_bind_ok (by
      rw [perform_none _ _ _ (clean _), run_bind_ok run_get, h.artifact, run_ofExcept_ok])]
  simp only [hsnapshot]
  rw [run_bind_ok (readRestorableSnapshot_run clean restorable)]
  rfl

/-! ## Phases -/

/-- A rollback saves the config it starts from and writes the paired one. -/
def rollbackStaging (job : RollbackJob) (plan : RollbackPlan) : Staging :=
  ⟨job.operationId, job.configSchema, some plan.restoredSchema, none, some plan.restored⟩

inductive Paired (platform : Platform) (job : RollbackJob) (plan : RollbackPlan) (w : World) :
    Outcome Failure Unit → World → Prop
  | unwritten (o : Outcome Failure Unit) (unfinished : o ≠ .ok ()) (o₁ : Outcome Failure Unit)
      (w₁ : World) (snapshot : (rollbackStaging job plan).Snapshots platform w o₁ w₁) :
      Paired platform job plan w o w₁
  | written (o : Outcome Failure Unit) (w₁ : World)
      (snapshot : (rollbackStaging job plan).Snapshots platform w (.ok ()) w₁) :
      Paired platform job plan w o { w₁ with config := some plan.restored }

theorem restorePairedConfig_ensures (job : RollbackJob) (plan : RollbackPlan) (e : Attempt)
    (run : Running) :
    Ensures (restorePairedConfig job plan) e
      (fun o run' => Paired e.platform job plan run.world o run'.world) run := by
  unfold restorePairedConfig
  simp only [ensures_bind, ensures_onWorld]
  apply (snapshotConfig_ensures _ _ _ _ e run.world).mono
  intro o w₁ snapshot
  cases o with
  | error x => exact .unwritten _ (by simp) _ w₁ snapshot
  | crashed => exact .unwritten _ (by simp) _ w₁ snapshot
  | ok _ =>
    simp only [after_ok, ensures_bind, ensures_onWorld]
    apply (readRestorableSnapshot_ensures _ _ _ e w₁).mono
    rintro (read | x | _) w₂ ⟨rfl, -⟩
    · simp only [after_ok]
      cases read with
      | none => exact .unwritten _ (by simp) _ w₂ snapshot
      | some read =>
        simp only [ensures_bind, ensures_note, after_ok, ensures_onWorld, writeConfig,
          grantRuntimeConfigRead, ensures_perform, ensures_modify, after_error, after_crashed,
          ensures_pure]
        exact ⟨fun _ => ⟨fun _ => .written _ w₂ snapshot, fun _ _ => .written _ w₂ snapshot,
          fun _ => .written _ w₂ snapshot⟩, fun _ _ => .unwritten _ (by simp) _ w₂ snapshot,
          fun _ => .unwritten _ (by simp) _ w₂ snapshot⟩
    · exact .unwritten _ (by simp) _ w₂ snapshot
    · exact .unwritten _ (by simp) _ w₂ snapshot

/-- A finished snapshot can be read back. -/
theorem Snapshots.restorable {s : Staging} {platform : Platform}
    (h : s.Snapshots platform w (.ok ()) w') :
    ∃ bytes schema, Restorable platform s.operation w' bytes schema := by
  cases h with
  | bytesOnly _ unfinished => exact absurd rfl unfinished
  | resumed record bytes present obsolete owner digest =>
    exact ⟨bytes, _, record, present, obsolete, owner, digest, rfl⟩
  | saved bytes =>
    exact ⟨bytes, s.schema, _, by simp [setSnapshot, completeSnapshot]; rfl, rfl, rfl, rfl, rfl⟩

theorem restorePairedConfig_run (clean : e.clean)
    (snapshot : (rollbackStaging job plan).Snapshots e.platform run.world (.ok ()) w') :
    ∃ performed, restorePairedConfig job plan e run =
      (.ok (), ⟨{ w' with config := some plan.restored }, performed⟩) := by
  obtain ⟨bytes, schema, restorable⟩ := Snapshots.restorable snapshot
  have saved : snapshotConfig job.operationId job.configSchema (some plan.restoredSchema) none e
      run.world = (.ok (), w') := snapshotConfig_run clean snapshot
  have readBack : readRestorableSnapshot .check job.operationId .configInvalid e w' =
      (.ok (some (bytes, schema)), w') := readRestorableSnapshot_run clean restorable
  unfold restorePairedConfig
  rw [run_bind_ok (by rw [run_onWorld, saved]),
    run_bind_ok (by rw [run_onWorld, readBack])]
  simp only
  rw [run_bind_ok (run_note _),
    run_bind_ok (by rw [run_onWorld, writeConfig, perform_none _ _ _ (clean _), run_modify]),
    run_bind_ok (run_note _), run_onWorld, grantRuntimeConfigRead, perform_none _ _ _ (clean _)]
  exact ⟨_, rfl⟩

/-- How far an attempt of a rollback came. -/
inductive RanBack (job : RollbackJob) (e : Attempt) (w : World) :
    Outcome Failure LifecycleFacts → World → Prop
  | refused (o : Outcome Failure LifecycleFacts) (unfinished : Unfinished o) : RanBack job e w o w
  | unpaired (plan : RollbackPlan) (object : RuntimeObject)
      (admitted : RollbackAdmitted e.platform job w plan object)
      (o : Outcome Failure LifecycleFacts) (unfinished : Unfinished o) (o₁ : Outcome Failure Unit)
      (w₁ : World) (paired : Paired e.platform job plan w o₁ w₁) : RanBack job e w o w₁
  | unstarted (plan : RollbackPlan) (object : RuntimeObject)
      (admitted : RollbackAdmitted e.platform job w plan object)
      (o : Outcome Failure LifecycleFacts) (unfinished : Unfinished o) (w₁ : World)
      (paired : Paired e.platform job plan w (.ok ()) w₁) (replacement : RuntimeReplacement)
      (planned : replacementFromObservation plan.observation plan.artifact = .ok replacement)
      (o₂ : Outcome Failure Unit) (w₂ : World)
      (replaced : Replaced job.runtimeKind replacement w₁ o₂ w₂) : RanBack job e w o w₂
  | started (plan : RollbackPlan) (object : RuntimeObject)
      (admitted : RollbackAdmitted e.platform job w plan object)
      (o : Outcome Failure LifecycleFacts) (unfinished : Unfinished o) (w₁ : World)
      (paired : Paired e.platform job plan w (.ok ()) w₁) (replacement : RuntimeReplacement)
      (planned : replacementFromObservation plan.observation plan.artifact = .ok replacement)
      (w₂ : World) (replaced : Replaced job.runtimeKind replacement w₁ (.ok ()) w₂)
      (started : RuntimeObject) (present : w₂.runtime = some started) :
      RanBack job e w o (w₂.after (some started.launched) (.started started.launched))
  | committed (plan : RollbackPlan) (object : RuntimeObject)
      (admitted : RollbackAdmitted e.platform job w plan object) (w₁ : World)
      (paired : Paired e.platform job plan w (.ok ()) w₁) (replacement : RuntimeReplacement)
      (planned : replacementFromObservation plan.observation plan.artifact = .ok replacement)
      (w₂ : World) (replaced : Replaced job.runtimeKind replacement w₁ (.ok ()) w₂)
      (started : RuntimeObject) (present : w₂.runtime = some started)
      (confirmed : Confirmed e.platform job.runtimeKind plan.previous job.port job.issuer
        (w₂.after (some started.launched) (.started started.launched)))
      (state state' : DeploymentState) (before : w₂.state = some state)
      (after : applyRollbackHealthy state job.expectedRevision
        (some (job.configReference, plan.restoredSchema)) job.operationId = .ok state') :
      RanBack job e w (.ok ⟨state'.config.revision, none, none⟩)
        { w₂.after (some started.launched) (.started started.launched) with state := some state' }

theorem runRollback_ensures (job : RollbackJob) (e : Attempt) (run : Running) :
    Ensures (runRollback job) e (fun o run' => RanBack job e run.world o run'.world) run := by
  unfold runRollback
  simp only [ensures_bind, ensures_onWorld]
  apply (admitRollback_ensures job e run.world).mono
  rintro (plan | x | _) w ⟨rfl, admitted⟩
  case error => exact .refused _ (unfinished_error x)
  case crashed => exact .refused _ unfinished_crashed
  obtain ⟨object, admitted⟩ := admitted plan rfl
  simp only [after_ok, ensures_bind, ensures_note]
  apply (restorePairedConfig_ensures job plan e _).mono
  rintro (_ | x | _) run₁ paired
  case error => exact .unpaired plan object admitted _ (unfinished_error x) _ _ paired
  case crashed => exact .unpaired plan object admitted _ unfinished_crashed _ _ paired
  simp only [after_ok, ensures_bind, ensures_ofExcept]
  refine ⟨fun replacement planned => ?_,
    fun x _ => .unpaired plan object admitted _ (unfinished_error x) _ _ paired⟩
  simp only [after_ok, ensures_bind, ensures_note, ensures_onWorld]
  apply (replace_ensures job.runtimeKind .change replacement e _).mono
  rintro (_ | x | _) w₂ replaced
  case error =>
    exact .unstarted plan object admitted _ (unfinished_error x) _ paired replacement planned _ w₂
      replaced
  case crashed =>
    exact .unstarted plan object admitted _ unfinished_crashed _ paired replacement planned _ w₂
      replaced
  simp only [after_ok, ensures_bind, ensures_onWorld]
  apply (changeRuntime_ensures _ _ _ e w₂).mono
  rintro o w₃ (⟨unfinished, rfl⟩ | ⟨started, present, rfl, rfl⟩)
  · cases o with
    | ok _ => exact absurd rfl unfinished
    | error x =>
      exact .unstarted plan object admitted _ (unfinished_error x) _ paired replacement planned _ _
        replaced
    | crashed =>
      exact .unstarted plan object admitted _ unfinished_crashed _ paired replacement planned _ _
        replaced
  · simp only [after_ok, ensures_bind, ensures_onWorld]
    apply (confirmRuntime_ensures _ _ _ _ _ e _).mono
    rintro (_ | x | _) w₄ ⟨rfl, confirmed⟩
    case error =>
      exact .started plan object admitted _ (unfinished_error x) _ paired replacement planned w₂
        replaced started present
    case crashed =>
      exact .started plan object admitted _ unfinished_crashed _ paired replacement planned w₂
        replaced started present
    simp only [after_ok, ensures_bind, ensures_onWorld]
    apply (storeState_ensures _ _ e _).mono
    rintro o w₅ ⟨⟨unfinished, rfl⟩ | ⟨state, state', before, after, rfl, rfl⟩, -⟩
    · cases o with
      | ok state => exact absurd rfl (unfinished state)
      | error x =>
        exact .started plan object admitted _ (unfinished_error x) _ paired replacement planned w₂
          replaced started present
      | crashed =>
        exact .started plan object admitted _ unfinished_crashed _ paired replacement planned w₂
          replaced started present
    · exact .committed plan object admitted _ paired replacement planned w₂ replaced started present
        (confirmed rfl) state state' before after

/-- Finished phases one after the other are a completed rollback. -/
theorem runRollback_run {object started : RuntimeObject} {w₁ w₂ : World}
    {replacement : RuntimeReplacement} {state state' : DeploymentState} (clean : e.clean)
    (admitted : RollbackAdmitted e.platform job run.world plan object)
    (snapshot : (rollbackStaging job plan).Snapshots e.platform run.world (.ok ()) w₁)
    (planned : replacementFromObservation plan.observation plan.artifact = .ok replacement)
    (replaced : Replaced job.runtimeKind replacement { w₁ with config := some plan.restored }
      (.ok ()) w₂) (present : w₂.runtime = some started)
    (confirmed : Confirmed e.platform job.runtimeKind plan.previous job.port job.issuer
      (w₂.after (some started.launched) (.started started.launched)))
    (before : w₂.state = some state)
    (after : applyRollbackHealthy state job.expectedRevision
      (some (job.configReference, plan.restoredSchema)) job.operationId = .ok state') :
    ∃ performed, runRollback job e run = (.ok ⟨state'.config.revision, none, none⟩,
      ⟨{ w₂.after (some started.launched) (.started started.launched) with state := some state' },
        performed⟩) := by
  unfold runRollback
  rw [run_bind_ok (by rw [run_onWorld, admitRollback_run clean admitted]),
    run_bind_ok (run_note _)]
  obtain ⟨performed, paired⟩ := @restorePairedConfig_run job plan e _
    ⟨run.world, retainRuntime plan.before plan.observation run.performed⟩ clean snapshot
  have stored := @storeState_run e (w₂.after (some started.launched) (.started started.launched))
    .commitState (fun state => applyRollbackHealthy state job.expectedRevision
      (some (job.configReference, plan.restoredSchema)) job.operationId) _ _ clean before after
  rw [run_bind_ok paired, run_bind_ok (by rw [planned, run_ofExcept_ok]), run_bind_ok (run_note _),
    run_bind_ok (by rw [run_onWorld, replace_run clean replaced]),
    run_bind_ok (by rw [run_onWorld, start, changeRuntime_none _ _ (clean _) present]),
    run_bind_ok (by rw [run_onWorld, confirmRuntime_run clean confirmed]),
    run_bind_ok (by rw [run_onWorld, stored])]
  exact ⟨_, rfl⟩

/-! ## What cut-off attempts of a rollback leave -/

section left

variable {s : Staging} {platform : Platform} {w₁ : World}

theorem Restorable.unique {operation : OperationId} {bytes bytes' : Bytes}
    {schema schema' : ConfigSchema} (h : Restorable platform operation w bytes schema)
    (h' : Restorable platform operation w bytes' schema') : bytes' = bytes ∧ schema' = schema := by
  obtain ⟨record, saved, -, -, -, rfl⟩ := h
  obtain ⟨record', saved', -, -, -, rfl⟩ := h'
  rw [saved] at saved'
  cases saved'
  exact ⟨rfl, rfl⟩

theorem setSnapshot_other {operation other : OperationId} (different : other ≠ operation)
    (w : World) (snapshot : ConfigSnapshot) :
    (setSnapshot w operation snapshot).configSnapshots other = w.configSnapshots other := by
  simp [setSnapshot, different]

/-- Staging never touches a snapshot that is complete. -/
theorem StagingLeft.restorable (left : StagingLeft platform s w₀ w) {operation : OperationId}
    {bytes : Bytes} {schema : ConfigSchema}
    (h : Restorable platform operation w₀ bytes schema) :
    Restorable platform operation w bytes schema := by
  obtain ⟨record, saved, rest⟩ := h
  have other : (w₀.configSnapshots s.operation).record = none → operation ≠ s.operation := by
    rintro absent rfl
    rw [saved] at absent
    cases absent
  refine ⟨record, ?_, rest⟩
  cases left with
  | untouched _ snapshots => rw [snapshots, saved]
  | begun _ _ _ absent _ snapshots =>
    rw [snapshots, setSnapshot_other (other absent), saved]
  | saved w₁ saves snapshots =>
    rw [snapshots]
    rcases saves with ⟨-, snapshot⟩ | ⟨-, rfl⟩
    · cases snapshot with
      | bytesOnly _ unfinished => exact absurd rfl unfinished
      | resumed => exact saved
      | saved _ _ absent => rw [setSnapshot_other (other absent), saved]
    · exact saved

theorem Snapshots.saves (current : s.current = none) (h : s.Snapshots platform w (.ok ()) w₁) :
    s.Saves platform w w₁ := by
  cases config : w.config with
  | some bytes => exact .inl ⟨by simp [config], h⟩
  | none =>
    refine .inr ⟨config, ?_⟩
    cases h with
    | bytesOnly _ unfinished => exact absurd rfl unfinished
    | resumed => rfl
    | saved bytes source => simp [current, config] at source

/-- A resumed rollback completes the snapshot that an uninterrupted one takes. -/
theorem StagingLeft.resumesSnapshot (left : StagingLeft platform s w₀ w)
    (noConfig : w₀.config = none → w.config = none) (current : s.current = none)
    (h : s.Snapshots platform w₀ (.ok ()) w₁) :
    s.Snapshots platform w (.ok ()) { w with configSnapshots := w₁.configSnapshots } := by
  rcases left.resumes noConfig (Snapshots.saves current h) with ⟨-, snapshot⟩ | ⟨absent, same⟩
  · exact snapshot
  · rw [same]
    exact Snapshots.again h (by rw [← same])

/-- Putting the pair back touches the config and its snapshots, and no other part of the world. -/
theorem Paired.world {o : Outcome Failure Unit} (paired : Paired platform job plan w o w') :
    w' = { w with config := w'.config, configSnapshots := w'.configSnapshots } := by
  cases paired with
  | unwritten _ _ _ snapshot =>
    have world := Snapshotted.world snapshot
    rw [world]
  | written w₁ snapshot =>
    have world := Snapshotted.world snapshot
    rw [world]

/-- Putting the same pair back again, however far it comes, leaves the same kind of remains. -/
theorem StagingLeft.paired {o : Outcome Failure Unit} (left : StagingLeft platform s w₀ w)
    (noConfig : w₀.config = none → w.config = none) (same : rollbackStaging job plan = s)
    (paired : Paired platform job plan w o w') : StagingLeft platform s w₀ w' := by
  subst same
  cases paired with
  | unwritten _ _ _ snapshot =>
    exact left.snapshot noConfig (by simp [rollbackStaging]) snapshot
  | written w₁ snapshot => exact left.written noConfig (Snapshots.saves rfl snapshot) rfl

end left

/-- What cut-off attempts of a rollback leave, compared with the world in which the
order was accepted under a plan. -/
structure RollbackLeft (platform : Platform) (job : RollbackJob) (plan : RollbackPlan)
    (w₀ w : World) : Prop where
  state : w.state = w₀.state
  hostArtifacts : w.hostArtifacts = w₀.hostArtifacts
  images : w.images = w₀.images
  staging : StagingLeft platform (rollbackStaging job plan) w₀ w
  core : job.runtimeKind.isContainer = false → runtimeCore w = runtimeCore w₀

theorem RollbackLeft.refl (platform : Platform) (job : RollbackJob) (plan : RollbackPlan)
    (w₀ : World) : RollbackLeft platform job plan w₀ w₀ :=
  ⟨rfl, rfl, rfl, .untouched rfl rfl, fun _ => rfl⟩

section step

variable {platform : Platform} {object : RuntimeObject} {o : Outcome Failure Unit}
  (admitted : RollbackAdmitted platform job w₀ plan object)
  (left : RollbackLeft platform job plan w₀ w) (noConfig : w₀.config = none → w.config = none)

include admitted left in
/-- A resumed attempt puts the same pair back. -/
theorem RollbackAdmitted.samePair {plan' : RollbackPlan} {object' : RuntimeObject}
    (admitted' : RollbackAdmitted platform job w plan' object') :
    rollbackStaging job plan' = rollbackStaging job plan := by
  obtain ⟨snapshot, hsnapshot, restorable⟩ := admitted.paired
  obtain ⟨snapshot', hsnapshot', restorable'⟩ := admitted'.paired
  rw [hsnapshot] at hsnapshot'
  cases hsnapshot'
  obtain ⟨bytes, schema⟩ := Restorable.unique (StagingLeft.restorable left.staging restorable) restorable'
  simp [rollbackStaging, bytes, schema]

include admitted left noConfig in
theorem RollbackLeft.paired {plan' : RollbackPlan} {object' : RuntimeObject}
    (admitted' : RollbackAdmitted platform job w plan' object')
    (paired : Paired platform job plan' w o w') : RollbackLeft platform job plan w₀ w' where
  state := by rw [paired.world]; exact left.state
  hostArtifacts := by rw [paired.world]; exact left.hostArtifacts
  images := by rw [paired.world]; exact left.images
  staging := StagingLeft.paired left.staging noConfig (admitted.samePair left admitted') paired
  core unit := by rw [paired.world]; exact left.core unit

theorem RollbackLeft.replaced {replacement : RuntimeReplacement}
    (left : RollbackLeft platform job plan w₀ w)
    (replaced : Replaced job.runtimeKind replacement w o w') :
    RollbackLeft platform job plan w₀ w' where
  state := by rw [replaced.world]; exact left.state
  hostArtifacts := by rw [replaced.world]; exact left.hostArtifacts
  images := by rw [replaced.world]; exact left.images
  staging := by
    rw [replaced.world]
    exact left.staging.moved rfl rfl rfl rfl
  core unit := (Replaced.core replaced unit).trans (left.core unit)

theorem RollbackLeft.launched {started : RuntimeObject}
    (left : RollbackLeft platform job plan w₀ w) (present : w.runtime = some started) :
    RollbackLeft platform job plan w₀
      (w.after (some started.launched) (.started started.launched)) where
  state := left.state
  hostArtifacts := left.hostArtifacts
  images := left.images
  staging := left.staging.moved rfl rfl rfl rfl
  core unit := (core_after_launched _ present).trans (left.core unit)

include admitted left noConfig in
/-- One more cut-off attempt. -/
theorem RollbackLeft.step (platform_eq : e.platform = platform)
    (cut : runRollback job e ⟨w, {}⟩ = (.crashed, run)) :
    RollbackLeft platform job plan w₀ run.world := by
  have ran : RanBack job e w .crashed run.world := by
    have := runRollback_ensures job e ⟨w, {}⟩
    rwa [Ensures, cut] at this
  subst platform_eq
  generalize run.world = finished at ran ⊢
  cases ran with
  | refused => exact left
  | unpaired plan' object' admitted' _ _ _ _ paired =>
    exact left.paired admitted noConfig admitted' paired
  | unstarted plan' object' admitted' _ _ w₁ paired replacement planned _ _ replaced =>
    exact (left.paired admitted noConfig admitted' paired).replaced replaced
  | started plan' object' admitted' _ _ w₁ paired replacement planned w₂ replaced started present =>
    exact ((left.paired admitted noConfig admitted' paired).replaced replaced).launched present

end step

/-- A world from which a rollback can be resumed: it still shows what the plan was
made from, and a container is stopped. -/
structure RollbackResumable (platform : Platform) (kind : RuntimeBackendKind) (w₀ w : World) :
    Prop extends Resumable platform kind w₀ w where
  stopped : kind.isContainer → ∀ object, w.runtime = some object → object.running = false

def RollbackPlan.resumed (plan : RollbackPlan) (running : Bool) : RollbackPlan :=
  { plan with observation := { plan.observation with running } }

theorem RollbackAdmitted.resumed {platform : Platform} {object : RuntimeObject}
    (admitted : RollbackAdmitted platform job w₀ plan object)
    (left : RollbackLeft platform job plan w₀ w)
    (same : reported platform job.runtimeKind w = reported platform job.runtimeKind w₀) :
    ∃ object', w.runtime = some object' ∧
      RollbackAdmitted platform job w (RollbackPlan.resumed plan object'.running) object' := by
  obtain ⟨object', present', seen⟩ := reported_same same admitted.present
  obtain ⟨snapshot, hsnapshot, restorable⟩ := admitted.paired
  refine ⟨object', present', {
    previous := admitted.previous
    present := present'
    observed := by rw [seen, RollbackPlan.resumed, admitted.observed]
    serves := admitted.serves
    before := admitted.before
    artifact := ?_
    paired := ⟨snapshot, hsnapshot, StagingLeft.restorable left.staging restorable⟩ }⟩
  have artifact := admitted.artifact
  unfold previousRuntimeArtifact at artifact ⊢
  rw [left.hostArtifacts, left.images]
  exact artifact

theorem Replaced.cached {kind : RuntimeBackendKind} {replacement : RuntimeReplacement}
    {path : Path} {digest : Digest} (h : Replaced kind replacement w (.ok ()) w')
    (artifact : replacement.artifact = .hostBinary path digest) : digest ∈ w.hostArtifacts := by
  cases h with
  | kept _ unfinished => exact absurd rfl unfinished
  | removed _ unfinished => exact absurd rfl unfinished
  | unitStopped _ unfinished => exact absurd rfl unfinished
  | created _ _ _ other =>
    rw [artifact] at other
    cases other
  | overwritten _ _ _ _ _ same cached =>
    rw [artifact] at same
    cases same
    exact cached

/-- From a resumable world a clean attempt completes as the uninterrupted one did. -/
theorem runRollback_resumes {e₀ : Attempt} {facts : LifecycleFacts} (clean : e.clean)
    (platform : e.platform = e₀.platform)
    (ran : runRollback job e₀ ⟨w₀, {}⟩ = (.ok facts, run))
    (left : ∀ plan object, RollbackAdmitted e₀.platform job w₀ plan object →
      RollbackLeft e₀.platform job plan w₀ w)
    (resumable : RollbackResumable e₀.platform job.runtimeKind w₀ w) :
    ∃ run', runRollback job e ⟨w, {}⟩ = (.ok facts, run') ∧ SameEnd run.world run'.world := by
  have phases : RanBack job e₀ w₀ (.ok facts) run.world := by
    have := runRollback_ensures job e₀ ⟨w₀, {}⟩
    rwa [Ensures, ran] at this
  generalize hend : run.world = finished at phases ⊢
  cases phases with
  | refused _ unfinished => exact absurd rfl (unfinished facts)
  | unpaired _ _ _ _ unfinished => exact absurd rfl (unfinished facts)
  | unstarted _ _ _ _ unfinished => exact absurd rfl (unfinished facts)
  | started _ _ _ _ unfinished => exact absurd rfl (unfinished facts)
  | committed plan object admitted w₁ paired replacement planned w₂ replaced started present
      confirmed state state' before after =>
    have left := left plan object admitted
    obtain ⟨object', present', admitted'⟩ := admitted.resumed left resumable.reported
    cases paired with
    | unwritten unfinished => exact absurd rfl unfinished
    | written w₃ snapshot =>
      have snapshot' := StagingLeft.resumesSnapshot left.staging resumable.noConfig rfl snapshot
      have saved := Snapshotted.world snapshot
      obtain ⟨w₂', replaced', runtime⟩ := Replaced.resumes
        (w := { w with configSnapshots := w₃.configSnapshots, config := some plan.restored })
        replaced (by rw [saved]; exact admitted.present) present'
        (fun container => ⟨by
          have labels := congrArg (·.map RuntimeObservation.labels) resumable.reported
          simpa [reported, admitted.present, present', observation, container] using labels,
          resumable.stopped container object' present'⟩)
        (fun unit => by simpa [runtimeCore, admitted.present, present'] using left.core unit)
        (fun path digest artifact => by
          have cached := Replaced.cached replaced artifact
          rw [saved] at cached
          rw [left.hostArtifacts]
          exact cached)
      have config : w₂'.config = w₂.config := by
        rw [replaced'.world, replaced.world]
      have same : w₂'.state = w₂.state := by
        rw [replaced'.world, replaced.world, saved]
        exact left.state
      have confirmed' : Confirmed e.platform job.runtimeKind plan.previous job.port job.issuer
          (w₂'.after (some started.launched) (.started started.launched)) := by
        obtain ⟨found, text, hfound, htext, rest⟩ := confirmed
        rw [platform]
        exact ⟨found, text, hfound, config.trans htext, rest⟩
      rw [← platform] at admitted' snapshot'
      obtain ⟨performed, resumed⟩ := @runRollback_run _ _ _ ⟨w, {}⟩ _ _ _ _ _ _ _ clean admitted'
        snapshot' planned replaced' (runtime.trans present) confirmed' (same.trans before) after
      exact ⟨_, resumed, rfl, config, rfl⟩

/-! ## Cut-off attempts of a rollback -/

/-- One attempt of the order whose run was cut off. -/
def RollbackCut (order : RollbackOrder) (e : Attempt) (w w' : World) : Prop :=
  ∃ state current run, w.state = some state ∧ ¬state.producedBy order.operationId ∧
    state.artifact.current = some current ∧
    runRollback (rollbackJob order state current) e ⟨w, {}⟩ = (.crashed, run) ∧ w' = run.world

theorem executeRollback_ok {facts : LifecycleFacts}
    (h : executeRollback job e w = (.ok facts, w')) :
    ∃ run, runRollback job e ⟨w, {}⟩ = (.ok facts, run) ∧ w' = run.world := by
  unfold executeRollback at h
  rcases hrun : runRollback job e ⟨w, {}⟩ with ⟨o, run⟩
  rw [hrun] at h
  cases o with
  | ok facts' =>
    cases h
    exact ⟨run, rfl, rfl⟩
  | crashed => cases h
  | error x =>
    obtain ⟨conclusion, _, _, h⟩ := run_bind_eq_ok h
    cases conclusion <;> cases h

theorem executeRollback_run {facts : LifecycleFacts}
    (h : runRollback job e ⟨w, {}⟩ = (.ok facts, run)) :
    executeRollback job e w = (.ok facts, run.world) := by
  unfold executeRollback
  rw [h]
  rfl

/-- A completed rollback had been committed before, or its run completed. -/
theorem answerRollback_ok {order : RollbackOrder} {completion : CompletionBody}
    (h : answerRollback order e w = (.ok completion, w')) :
    ∃ state, w.state = some state ∧
      (state.producedBy order.operationId ∧
          completion = .stateMutateApplied state.config.revision none ∧ w' = w ∨
        ¬state.producedBy order.operationId ∧ ∃ current facts run,
          state.config.revision = order.expectedRevision ∧ state.appliedMigration = none ∧
          state.artifact.current = some current ∧
          runRollback (rollbackJob order state current) e ⟨w, {}⟩ = (.ok facts, run) ∧
          completion = .stateMutateApplied facts.revision none ∧ w' = run.world) := by
  unfold answerRollback at h
  obtain ⟨state, w₁, loaded, answer⟩ := run_bind_eq_ok h
  obtain ⟨hstate, rfl⟩ := loadState_ok loaded
  refine ⟨state, hstate, ?_⟩
  split at answer
  case isTrue produced =>
    cases answer
    exact .inl ⟨produced, rfl, rfl⟩
  case isFalse fresh =>
    obtain ⟨_, w₂, revision, answer⟩ := run_bind_eq_ok answer
    obtain ⟨_, w₃, unfenced, answer⟩ := run_bind_eq_ok answer
    rw [run_require] at revision unfenced
    split at revision
    case isFalse => cases revision
    rename_i sameRevision
    cases revision
    split at unfenced
    case isFalse => cases unfenced
    rename_i noFence
    cases unfenced
    cases current : state.artifact.current with
    | none =>
      rw [current] at answer
      cases answer
    | some artifact =>
      rw [current] at answer
      obtain ⟨facts, w₄, executed, answer⟩ := run_bind_eq_ok answer
      cases answer
      obtain ⟨run, ran, rfl⟩ := executeRollback_ok executed
      exact .inr ⟨fresh, artifact, facts, run, sameRevision, noFence, rfl, ran, rfl, rfl⟩

theorem answerRollback_run {order : RollbackOrder} {state : DeploymentState} {current : Digest}
    {facts : LifecycleFacts} (clean : e.clean) (loaded : w.state = some state)
    (fresh : ¬state.producedBy order.operationId)
    (revision : state.config.revision = order.expectedRevision)
    (unfenced : state.appliedMigration = none) (hcurrent : state.artifact.current = some current)
    (ran : runRollback (rollbackJob order state current) e ⟨w, {}⟩ = (.ok facts, run)) :
    answerRollback order e w = (.ok (.stateMutateApplied facts.revision none), run.world) := by
  unfold answerRollback
  rw [run_bind_ok (loadState_run clean loaded), if_neg fresh,
    run_bind_ok (by rw [run_require, if_pos revision]),
    run_bind_ok (by rw [run_require, if_pos unfenced])]
  simp only [hcurrent]
  rw [run_bind_ok (executeRollback_run ran)]
  rfl

/-- A rollback that was cut off any number of times, each time in a world from which
it can be resumed, completes as if it had never been. -/
theorem rollback_resumed {order : RollbackOrder} {e₀ e : Attempt} {completion : CompletionBody}
    {state : DeploymentState} (clean : e.clean) (platform : e.platform = e₀.platform)
    (loaded : w₀.state = some state)
    (answered : (answerRollback order e₀ w₀).1 = .ok completion)
    (cuts : Relation.ReflTransGen (fun w w' =>
      RollbackResumable e₀.platform state.runtime.kind w₀ w ∧
        ∃ e, e.platform = e₀.platform ∧ RollbackCut order e w w') w₀ w)
    (resumable : RollbackResumable e₀.platform state.runtime.kind w₀ w) :
    (answerRollback order e w).1 = .ok completion ∧
      SameEnd (answerRollback order e₀ w₀).2 (answerRollback order e w).2 := by
  rcases hanswer : answerRollback order e₀ w₀ with ⟨o, w₁⟩
  rw [hanswer] at answered
  cases answered
  obtain ⟨state', loaded', produced | ⟨fresh, current, facts, run, revision, unfenced, hcurrent, ran,
    rfl, rfl⟩⟩ := answerRollback_ok hanswer
  · obtain rfl := Option.some.inj (loaded.symm.trans loaded')
    obtain ⟨produced, rfl, rfl⟩ := produced
    have uncut : w = w₁ := by
      rcases Relation.ReflTransGen.cases_head cuts with same | ⟨w₂, ⟨-, e', -, cut⟩, -⟩
      · exact same.symm
      · obtain ⟨state', _, _, loaded', fresh, -⟩ := cut
        rw [loaded] at loaded'
        cases loaded'
        exact absurd produced fresh
    subst uncut
    have answer : answerRollback order e w =
        (.ok (.stateMutateApplied state.config.revision none), w) := by
      unfold answerRollback
      rw [run_bind_ok (loadState_run clean loaded), if_pos produced]
      rfl
    rw [answer]
    exact ⟨rfl, rfl, rfl, rfl⟩
  · obtain rfl := Option.some.inj (loaded.symm.trans loaded')
    have left : ∀ plan object, RollbackAdmitted e₀.platform (rollbackJob order state current) w₀ plan
        object → RollbackLeft e₀.platform (rollbackJob order state current) plan w₀ w := by
      intro plan object admitted
      clear resumable
      induction cuts with
      | refl => exact RollbackLeft.refl _ _ _ w₀
      | tail _ cut ih =>
        obtain ⟨resumable', e', platform', cut⟩ := cut
        obtain ⟨state', current', run', hstate, -, hcurrent', attempted, rfl⟩ := cut
        rw [ih.state, loaded] at hstate
        cases hstate
        rw [hcurrent] at hcurrent'
        cases hcurrent'
        exact RollbackLeft.step admitted ih resumable'.noConfig platform' attempted
    obtain ⟨run', again, ends⟩ := runRollback_resumes clean platform ran left resumable
    have hstate : w.state = some state := by
      have phases : RanBack (rollbackJob order state current) e₀ w₀ (.ok facts) run.world := by
        have := runRollback_ensures (rollbackJob order state current) e₀ ⟨w₀, {}⟩
        rwa [Ensures, ran] at this
      generalize run.world = finished at phases
      cases phases with
      | refused _ unfinished => exact absurd rfl (unfinished facts)
      | unpaired _ _ _ _ unfinished => exact absurd rfl (unfinished facts)
      | unstarted _ _ _ _ unfinished => exact absurd rfl (unfinished facts)
      | started _ _ _ _ unfinished => exact absurd rfl (unfinished facts)
      | committed plan object admitted => exact (left plan object admitted).state.trans loaded
    rw [answerRollback_run clean hstate fresh revision unfenced hcurrent again]
    exact ⟨rfl, ends⟩

end NazoAuthCtl.RollbackResume
