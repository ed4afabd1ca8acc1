import NazoAuthCtl.CrashResume
import NazoAuthCtl.UpdateUndo

/-!
# Whether a failed change of a container is undone

`restore_runtime_before_change` puts back the container that an attempt has observed and
kept in memory. It replaces whatever stands then, and a replacement is refused while that
is running: the undo never stops the container that the attempt itself has started.
-/

set_option autoImplicit false
set_option linter.all false

namespace NazoAuthCtl.ContainerUndo

open FaultProgram TargetState TargetWorld UpdateExec RollbackExec LifecycleDispatch UpdateAdmission
  UpdateSteps UpdateResume RollbackResume CrashResume UpdateUndo
open Program

/-- The container of a deployment: it carries an ownership label and runs a bound image. -/
structure OwnContainer (object : RuntimeObject) : Prop where
  labelled : ∃ owner, object.labels.lookup ownershipLabel = some owner
  bound : ∃ reference digest, object.artifact = .oci reference digest

/-- The container that an attempt has observed, as it would be made again. -/
def observedContainer (platform : Platform) (kind : RuntimeBackendKind) (object : RuntimeObject) :
    RuntimeReplacement :=
  surfaceWith (observation platform kind object) object.artifact

/-- What an attempt that has touched the container remembers of it, and what stands. A
container that runs then is the observed one, or the new one after its start. -/
structure Touched (platform : Platform) (kind : RuntimeBackendKind) (object : RuntimeObject)
    (run : Running) : Prop where
  before : run.performed.runtimeBeforeChange = some (observedContainer platform kind object)
  beforeRunning : run.performed.runtimeBeforeChangeWasRunning = object.running
  labels : ∀ standing, run.world.runtime = some standing → standing.labels = object.labels
  running : ∀ standing, run.world.runtime = some standing → standing.running = true →
    standing = object ∨ ∃ artifact, standing =
      (createdObject (surfaceWith (observation platform kind object) artifact)).launched

/-- An attempt that failed after it had touched the container, in a way that is undone. -/
inductive FailedChange (kind : RuntimeBackendKind) (platform : Platform) (w : World) :
    Running → Prop
  | update (job : UpdateJob) (same : job.runtimeKind = kind) (e : Attempt)
      (here : e.platform = platform) (failure : Failure) (run : Running)
      (failed : runUpdate job e ⟨w, freshSteps job⟩ = (.error failure, run))
      (touched : run.performed.replacedRuntime = true)
      (unapplied : run.performed.migrationApplied = false)
      (resolved : run.performed.migrationOutcomeUnknown = false) : FailedChange kind platform w run
  | rollback (job : RollbackJob) (same : job.runtimeKind = kind) (e : Attempt)
      (here : e.platform = platform) (failure : Failure) (run : Running)
      (failed : runRollback job e ⟨w, {}⟩ = (.error failure, run))
      (touched : run.performed.replacedRuntime = true) : FailedChange kind platform w run

/-- Between the failure and the undo of the runtime, the config is put back and a running
container may exit by itself. -/
def Since (w w' : World) : Prop :=
  w'.runtime = w.runtime ∨
    ∃ object, w.runtime = some object ∧ w'.runtime = some object.halted

/-- The engine performs every command of the undo that it accepts. -/
structure Performs (e : Attempt) : Prop where
  inspects : e.faults (.inspectSource .undo) = .none
  removes : e.faults (.removeSource .undo) = .none
  creates : e.faults (.createReplacement .undo) = .none
  starts : e.faults (.start .undo) = .none
  stops : e.faults (.stop .undo) = .none

/-- The undo succeeds, and the container has its old artifact and status again. -/
def Undone (kind : RuntimeBackendKind) (artifact : Digest) (runtimeRoot : Option Path)
    (performed : PerformedSteps) (e : Attempt) (w : World) (object : RuntimeObject) : Prop :=
  ∃ w', restoreRuntimeBeforeChange kind artifact runtimeRoot performed e w = (.ok (), w') ∧
    ∃ restored, w'.runtime = some restored ∧ restored.artifact = object.artifact ∧
      restored.running = object.running

/-! ## What an attempt leaves -/

section left

variable {kind : RuntimeBackendKind} {platform : Platform} {object : RuntimeObject} {w w' : World}
  {run run' : Running}

/-- What an attempt remembers of the container, and the container. -/
def containerPart (run : Running) :
    Option RuntimeObject × Option RuntimeReplacement × Bool × Bool :=
  (run.world.runtime, run.performed.runtimeBeforeChange,
    run.performed.runtimeBeforeChangeWasRunning, run.performed.replacedRuntime)

theorem staged_containerPart {job : UpdateJob} {plan : UpdatePlan} {o : Outcome Failure Unit}
    (staged : Staged platform job plan run o run') : containerPart run' = containerPart run := by
  have runtime : run'.world.runtime = run.world.runtime := by rw [staged.world]
  have remembered : run'.performed.runtimeBeforeChange = run.performed.runtimeBeforeChange ∧
      run'.performed.runtimeBeforeChangeWasRunning =
        run.performed.runtimeBeforeChangeWasRunning ∧
      run'.performed.replacedRuntime = run.performed.replacedRuntime := by
    cases staged <;> exact ⟨rfl, rfl, rfl⟩
  rw [containerPart, runtime, remembered.1, remembered.2.1, remembered.2.2, containerPart]

theorem dispatched_containerPart {job : UpdateJob} {plan : UpdatePlan} {e : Attempt}
    {o : Outcome Failure (Option ControlResult)} (dispatched : Dispatched job plan e run o run') :
    containerPart run' = containerPart run := by
  have runtime : run'.world.runtime = run.world.runtime := by rw [dispatched.world]
  have remembered : run'.performed.runtimeBeforeChange = run.performed.runtimeBeforeChange ∧
      run'.performed.runtimeBeforeChangeWasRunning =
        run.performed.runtimeBeforeChangeWasRunning ∧
      run'.performed.replacedRuntime = run.performed.replacedRuntime := by
    cases dispatched <;> exact ⟨rfl, rfl, rfl⟩
  rw [containerPart, runtime, remembered.1, remembered.2.1, remembered.2.2, containerPart]

/-- The container and what is remembered of it just before it is touched. -/
structure Untouched (platform : Platform) (kind : RuntimeBackendKind) (object : RuntimeObject)
    (run : Running) : Prop where
  present : run.world.runtime = some object
  before : run.performed.runtimeBeforeChange = some (observedContainer platform kind object)
  beforeRunning : run.performed.runtimeBeforeChangeWasRunning = object.running

theorem Untouched.of_same (untouched : Untouched platform kind object run)
    (same : containerPart run' = containerPart run) : Untouched platform kind object run' := by
  obtain ⟨runtime, before, running, -⟩ : _ ∧ _ ∧ _ ∧ _ := by
    simpa only [containerPart, Prod.mk.injEq] using same
  exact ⟨runtime.trans untouched.present, before.trans untouched.before,
    running.trans untouched.beforeRunning⟩

/-- What replacing the container, stopped or not, can leave. -/
theorem replaced_standing {artifact : ArtifactReference} {o : Outcome Failure Unit}
    (container : kind.isContainer) {source : RuntimeObject} (present : w.runtime = some source)
    (labels : source.labels = object.labels)
    (running : source.running = true → source = object)
    (replaced : Replaced kind (surfaceWith (observation platform kind object) artifact) w o w') :
    ∀ standing, w'.runtime = some standing → standing.labels = object.labels ∧
      (standing.running = true → standing = object) := by
  have observed : (observation platform kind object).labels = object.labels := by
    simp [observation, container]
  intro standing here
  cases replaced with
  | kept =>
    rw [present] at here
    cases here
    exact ⟨labels, running⟩
  | removed => simp [sourceRemoved, present] at here
  | unitStopped _ _ unit => simp [container] at unit
  | overwritten unit => simp [container] at unit
  | created =>
    cases here
    exact ⟨observed, fun started => absurd started (by simp [createdObject])⟩

/-- What stands after a replacement that may have failed. -/
theorem replaced_touched {artifact : ArtifactReference} {o : Outcome Failure Unit}
    (container : kind.isContainer) (untouched : Untouched platform kind object run)
    {source : RuntimeObject} (present : w.runtime = some source)
    (labels : source.labels = object.labels)
    (running : source.running = true → source = object)
    (replaced : Replaced kind (surfaceWith (observation platform kind object) artifact) w o w') :
    Touched platform kind object ⟨w', { run.performed with replacedRuntime := true }⟩ := by
  have standing := replaced_standing container present labels running replaced
  exact ⟨untouched.before, untouched.beforeRunning, fun found here => (standing found here).1,
    fun found here started => .inl ((standing found here).2 started)⟩

/-- What stands after the start of the new container. -/
theorem started_touched {artifact : ArtifactReference} (container : kind.isContainer)
    (untouched : Untouched platform kind object run)
    (replaced : Replaced kind (surfaceWith (observation platform kind object) artifact) w (.ok ())
      w') {created : RuntimeObject} (present : w'.runtime = some created) :
    Touched platform kind object ⟨w'.after (some created.launched) (.started created.launched),
      { run.performed with replacedRuntime := true }⟩ := by
  cases replaced with
  | kept _ unfinished => exact absurd rfl unfinished
  | removed _ unfinished => exact absurd rfl unfinished
  | unitStopped _ unfinished => exact absurd rfl unfinished
  | overwritten unit => simp [container] at unit
  | created =>
    cases present
    refine ⟨untouched.before, untouched.beforeRunning, ?_, ?_⟩
    · rintro standing here
      cases here
      simp [RuntimeObject.launched, createdObject, surfaceWith, observation, container]
    · rintro standing here _
      cases here
      exact .inr ⟨_, rfl⟩

theorem activating_touched {job : UpdateJob} {plan : UpdatePlan} {o : Outcome Failure Unit}
    (container : job.runtimeKind.isContainer)
    (untouched : Untouched platform job.runtimeKind object run)
    (fresh : run.performed.replacedRuntime = false)
    (observed : plan.observation = observation platform job.runtimeKind object)
    (planned : ∀ replacement ∈ plan.replacement,
      replacement = surfaceWith plan.observation plan.verified.runtimeArtifact)
    (activating : Activating job plan run o run')
    (touched : run'.performed.replacedRuntime = true) :
    Touched platform job.runtimeKind object run' := by
  have stopped_source : ∀ {w₁}, writerStopped plan.observation.running run.world w₁ →
      ∃ source, w₁.runtime = some source ∧ source.labels = object.labels ∧
        (source.running = true → source = object) := by
    intro w₁ stopped
    unfold writerStopped at stopped
    split at stopped
    · obtain ⟨source, present, rfl⟩ := stopped
      rw [untouched.present] at present
      cases present
      exact ⟨_, rfl, rfl, fun started => absurd started (by simp [RuntimeObject.halted])⟩
    · exact ⟨object, by rw [stopped]; exact untouched.present, rfl, fun _ => rfl⟩
  cases activating with
  | notNeeded => simp [fresh] at touched
  | unstopped => simp [fresh] at touched
  | unreplaced _ _ replacement needed w₁ w₂ stopped replaced =>
    rw [planned replacement needed, observed] at replaced
    obtain ⟨source, present, labels, running⟩ := stopped_source stopped
    exact replaced_touched container untouched present labels running replaced
  | unstarted _ _ replacement needed w₁ w₂ stopped replaced =>
    rw [planned replacement needed, observed] at replaced
    obtain ⟨source, present, labels, running⟩ := stopped_source stopped
    exact replaced_touched container untouched present labels running replaced
  | activated replacement needed w₁ w₂ stopped replaced created present =>
    rw [planned replacement needed, observed] at replaced
    exact started_touched container untouched replaced present

/-- A failed update that has touched the container had begun to activate the new one. -/
theorem carried_activating {job : UpdateJob} {plan : UpdatePlan} {e : Attempt} {failure : Failure}
    (fresh : run.performed.replacedRuntime = false)
    (carriedOut : CarriedOut job plan e run (.error failure) run')
    (touched : run'.performed.replacedRuntime = true) :
    ∃ run₂ o, containerPart run₂ = containerPart (retained plan run) ∧
      Activating job plan run₂ o run' := by
  have begun : (retained plan run).performed.replacedRuntime = false := by
    unfold retained retainRuntime
    cases plan.before <;> exact fresh
  have replacedPart : ∀ {run₁ : Running}, containerPart run₁ = containerPart (retained plan run) →
      run₁.performed.replacedRuntime = false := by
    intro run₁ same
    have last := congrArg (fun part => part.2.2.2) same
    exact last.trans begun
  cases carriedOut with
  | unstaged _ _ _ _ _ staged =>
    rw [replacedPart (staged_containerPart staged)] at touched
    cases touched
  | undispatched _ _ _ _ _ _ staged dispatched =>
    rw [replacedPart ((dispatched_containerPart dispatched).trans (staged_containerPart staged))]
      at touched
    cases touched
  | unactivated _ _ run₁ run₂ _ _ _ staged dispatched activating =>
    exact ⟨run₂, _, (dispatched_containerPart dispatched).trans (staged_containerPart staged),
      activating⟩
  | uncommitted _ _ run₁ run₂ _ staged dispatched activating =>
    exact ⟨run₂, _, (dispatched_containerPart dispatched).trans (staged_containerPart staged),
      activating⟩

/-- What a failed update leaves of a container it has touched. -/
theorem update_touched {job : UpdateJob} {e : Attempt} {failure : Failure}
    (container : job.runtimeKind.isContainer) (present : w.runtime = some object)
    (failed : runUpdate job e ⟨w, freshSteps job⟩ = (.error failure, run))
    (touched : run.performed.replacedRuntime = true) :
    Touched e.platform job.runtimeKind object run := by
  have ran : Ran job e ⟨w, freshSteps job⟩ (.error failure) run := by
    have := runUpdate_ensures job e ⟨w, freshSteps job⟩
    rwa [Ensures, failed] at this
  cases ran with
  | refused => simp [freshSteps] at touched
  | carried plan admitted _ _ carriedOut =>
    obtain ⟨found, live, established⟩ := admission_some admitted
    obtain rfl : object = found := Option.some.inj (present.symm.trans established.present)
    obtain ⟨run₂, o, same, activating⟩ := carried_activating rfl carriedOut touched
    rcases planReplacement_ok established.replacement with ⟨-, unneeded, -⟩ | ⟨-, needed, before⟩
    · have part := congrArg (fun part => part.2.2.2) same
      have begun : run₂.performed.replacedRuntime = false := by
        refine part.trans ?_
        unfold containerPart retained retainRuntime
        cases plan.before <;> rfl
      cases activating with
      | notNeeded =>
        rw [begun] at touched
        cases touched
      | unstopped _ _ _ planned => simp [unneeded] at planned
      | unreplaced _ _ _ planned => simp [unneeded] at planned
      | unstarted _ _ _ planned => simp [unneeded] at planned
      | activated _ planned => simp [unneeded] at planned
    · rw [if_pos container, established.observed] at before
      have runtime : (keepArtifact plan.verified.runtimeArtifact w).runtime = some object := by
        rw [(keepArtifact_kept plan.verified.runtimeArtifact w).rest]
        exact present
      have untouched : Untouched e.platform job.runtimeKind object (retained plan
          ⟨keepArtifact plan.verified.runtimeArtifact w, freshSteps job⟩) := by
        rw [retained, before]
        refine ⟨runtime, rfl, ?_⟩
        show plan.observation.running = object.running
        rw [established.observed]
        rfl
      refine activating_touched container (untouched.of_same same) ?_ established.observed ?_
        activating touched
      · refine (congrArg (fun part => part.2.2.2) same).trans ?_
        rw [retained, before]
        rfl
      · intro replacement planned
        rw [needed] at planned
        exact (Option.some.inj planned).symm

/-- Saving and writing the config does not concern the container. -/
theorem restorePairedConfig_containerPart (job : RollbackJob) (plan : RollbackPlan) (e : Attempt)
    (run : Running) : Ensures (restorePairedConfig job plan) e
      (fun _ run' => containerPart run' = containerPart run) run := by
  unfold restorePairedConfig
  simp only [ensures_bind, ensures_onWorld]
  apply (snapshotConfig_ensures _ _ _ _ e run.world).mono
  intro o w₁ snapshot
  have kept : w₁.runtime = run.world.runtime := by rw [Snapshotted.world snapshot]
  have same : ∀ config performed, containerPart ⟨w₁, performed⟩ = containerPart run →
      containerPart ⟨{ w₁ with config }, performed⟩ = containerPart run := fun _ _ same => same
  have part : containerPart { run with world := w₁ } = containerPart run := by
    rw [containerPart, kept, containerPart]
  cases o with
  | error x => exact part
  | crashed => exact part
  | ok _ =>
    simp only [after_ok, ensures_bind, ensures_onWorld]
    apply (readRestorableSnapshot_ensures _ _ _ e w₁).mono
    rintro (read | x | _) w₂ ⟨rfl, -⟩
    · simp only [after_ok]
      cases read with
      | none => exact part
      | some read =>
        simp only [ensures_bind, ensures_note, after_ok, ensures_onWorld, writeConfig,
          grantRuntimeConfigRead, ensures_perform, ensures_modify, after_error, after_crashed,
          ensures_pure]
        exact ⟨fun _ => ⟨fun _ => part, fun _ _ => part, fun _ => part⟩, fun _ _ => part,
          fun _ => part⟩
    · exact part
    · exact part

/-- What a failed rollback leaves of a container it has touched. -/
theorem rollback_touched {job : RollbackJob} {e : Attempt} (container : job.runtimeKind.isContainer)
    (present : w.runtime = some object) :
    Ensures (runRollback job) e (fun o run' => Unfinished o →
      run'.performed.replacedRuntime = true →
        Touched e.platform job.runtimeKind object run') ⟨w, {}⟩ := by
  unfold runRollback
  simp only [ensures_bind, ensures_onWorld]
  apply (admitRollback_ensures job e w).mono
  rintro (plan | x | _) w ⟨rfl, admitted⟩
  case error => simp
  case crashed => simp
  obtain ⟨found, admitted⟩ := admitted plan rfl
  obtain rfl : object = found := Option.some.inj (present.symm.trans admitted.present)
  have before : plan.before = some (observedContainer e.platform job.runtimeKind object) := by
    have planned := admitted.before
    rw [if_pos container] at planned
    cases exactly : exactReplacementFromObservation plan.observation with
    | error x =>
      rw [exactly] at planned
      cases planned
    | ok replacement =>
      rw [exactly] at planned
      rw [← Except.ok.inj planned, exactReplacementFromObservation_ok exactly, admitted.observed]
      rfl
  simp only [after_ok, ensures_bind, ensures_note]
  have untouched : Untouched e.platform job.runtimeKind object
      ⟨w, retainRuntime plan.before plan.observation {}⟩ := by
    rw [before]
    refine ⟨present, rfl, ?_⟩
    show plan.observation.running = object.running
    rw [admitted.observed]
    rfl
  have fresh : (retainRuntime plan.before plan.observation {}).replacedRuntime = false := by
    rw [before]
    rfl
  apply (restorePairedConfig_containerPart job plan e _).mono
  intro o run₁ same
  have begun : run₁.performed.replacedRuntime = false :=
    (congrArg (fun part => part.2.2.2) same).trans fresh
  have untouched := untouched.of_same same
  cases o with
  | error x => simp [begun]
  | crashed => simp [begun]
  | ok _ =>
    simp only [after_ok, ensures_bind, ensures_ofExcept]
    refine ⟨fun replacement planned => ?_, fun x _ => by simp [begun]⟩
    have surface := replacementFromObservation_ok planned
    rw [admitted.observed] at surface
    subst surface
    simp only [after_ok, ensures_bind, ensures_note, ensures_onWorld]
    apply (replace_ensures job.runtimeKind .change _ e _).mono
    intro o₂ w₂ replaced
    have left := replaced_touched container untouched untouched.present rfl (fun _ => rfl) replaced
    cases o₂ with
    | error x => exact fun _ _ => left
    | crashed => exact fun _ _ => left
    | ok _ =>
      simp only [after_ok, ensures_bind, ensures_onWorld]
      apply (changeRuntime_ensures _ _ _ e w₂).mono
      rintro o₃ w₃ (⟨unfinished, rfl⟩ | ⟨created, present', rfl, rfl⟩)
      · cases o₃ with
        | ok _ => exact absurd rfl unfinished
        | error x => exact fun _ _ => left
        | crashed => exact fun _ _ => left
      · have started := started_touched container untouched replaced present'
        simp only [after_ok, ensures_bind, ensures_onWorld]
        apply (confirmRuntime_ensures _ _ _ _ _ e _).mono
        rintro (_ | x | _) w₄ ⟨rfl, -⟩
        case error => exact fun _ _ => started
        case crashed => exact fun _ _ => started
        simp only [after_ok, ensures_bind, ensures_onWorld]
        apply (storeState_ensures _ _ e _).mono
        rintro o₅ w₅ ⟨⟨unfinished, rfl⟩ | ⟨state, state', _, _, rfl, rfl⟩, -⟩
        · cases o₅ with
          | ok state => exact absurd rfl (unfinished state)
          | error x => exact fun _ _ => started
          | crashed => exact fun _ _ => started
        · exact fun unfinished => absurd rfl (unfinished _)

theorem FailedChange.touched (container : kind.isContainer) (present : w.runtime = some object)
    (failed : FailedChange kind platform w run) : Touched platform kind object run := by
  cases failed with
  | update job same e here failure _ failed touched =>
    subst same here
    exact update_touched container present failed touched
  | rollback job same e here failure _ failed touched =>
    subst same here
    have left := @rollback_touched object w job e container present
    rw [Ensures, failed] at left
    exact left (unfinished_error failure) touched

end left

/-! ## The undo -/

section undo

variable {kind : RuntimeBackendKind} {platform : Platform} {object : RuntimeObject} {w w' : World}
  {run : Running} {e : Attempt} {replacement : RuntimeReplacement}

/-- A replacement over nothing, or over what may be removed. -/
theorem replace_undo_run (container : kind.isContainer) (performs : Performs e)
    {reference : String} {digest : Digest} (bound : replacement.artifact = .oci reference digest)
    (free : ∀ standing, w.runtime = some standing →
      mayRemoveSource replacement standing = .ok ()) :
    replace kind .undo replacement e w = (.ok (), (sourceRemoved w).after
      (some (createdObject replacement)) (.created (createdObject replacement))) := by
  have removed : removeReplacementSource .undo replacement e w = (.ok (), sourceRemoved w) := by
    unfold removeReplacementSource
    rw [run_bind_ok (perform_none _ _ _ performs.inspects)]
    unfold sourceRemoved
    cases present : w.runtime with
    | none => rfl
    | some standing =>
      simp only
      rw [run_bind_ok (by rw [free standing present, run_ofExcept_ok]),
        perform_none _ _ _ performs.removes, run_modify]
  unfold replace replaceContainer
  rw [if_pos container]
  simp only [bound]
  rw [run_bind_ok removed, createReplacement, perform_none _ _ _ performs.creates, run_modify]

theorem restore_run (container : kind.isContainer) (performs : Performs e) (artifact : Digest)
    (runtimeRoot : Option Path) {performed : PerformedSteps}
    (before : performed.runtimeBeforeChange = some replacement) {reference : String}
    {digest : Digest} (bound : replacement.artifact = .oci reference digest)
    (free : ∀ standing, w.runtime = some standing →
      mayRemoveSource replacement standing = .ok ()) :
    ∃ w' restored, restoreRuntimeBeforeChange kind artifact runtimeRoot performed e w = (.ok (), w') ∧
      w'.runtime = some restored ∧ restored.artifact = replacement.artifact ∧
      restored.running = performed.runtimeBeforeChangeWasRunning := by
  have engine : kind ≠ .host := by
    intro host
    rw [host] at container
    cases container
  unfold restoreRuntimeBeforeChange
  rw [if_neg engine]
  simp only [before]
  rw [run_bind_ok (replace_undo_run container performs bound free)]
  by_cases running : performed.runtimeBeforeChangeWasRunning = true
  · rw [if_pos running, start, changeRuntime_none _ _ performs.starts rfl]
    exact ⟨_, _, rfl, rfl, rfl, running.symm⟩
  · rw [if_neg running, stop, changeRuntime_none _ _ performs.stops rfl]
    exact ⟨_, _, rfl, rfl, rfl, by simpa [RuntimeObject.halted] using running⟩

/-- A failed change of a container is undone exactly if no container runs any more when the
undo of the runtime begins. -/
theorem failed_change_undone_iff (container : kind.isContainer) (own : OwnContainer object)
    (present : w.runtime = some object) (failed : FailedChange kind platform w run)
    (since : Since run.world w') (performs : Performs e) (artifact : Digest)
    (runtimeRoot : Option Path) :
    Undone kind artifact runtimeRoot run.performed e w' object ↔
      ∀ standing, w'.runtime = some standing → standing.running = false := by
  have touched := failed.touched container present
  constructor
  · rintro ⟨w₂, restored, -⟩
    obtain ⟨replacement, -, -, idle⟩ := restoreRuntime_container container restored
    exact idle
  · intro idle
    obtain ⟨owner, labelled⟩ := own.labelled
    obtain ⟨reference, digest, bound⟩ := own.bound
    have labels : ∀ standing, w'.runtime = some standing → standing.labels = object.labels := by
      intro standing here
      rcases since with same | ⟨stood, before, exited⟩
      · exact touched.labels standing (same ▸ here)
      · rw [exited] at here
        cases here
        exact touched.labels stood before
    have observed : (observedContainer platform kind object).labels = object.labels := by
      simp [observedContainer, surfaceWith, observation, container]
    have free : ∀ standing, w'.runtime = some standing →
        mayRemoveSource (observedContainer platform kind object) standing = .ok () := by
      intro standing here
      rw [mayRemoveSource_ok, observed, labels standing here]
      exact ⟨⟨owner, labelled, labelled⟩, idle standing here⟩
    obtain ⟨w₂, restored, done, stands, same, status⟩ :=
      restore_run container performs artifact runtimeRoot touched.before bound free
    exact ⟨w₂, done, restored, stands, same, status.trans touched.beforeRunning⟩

end undo

section inputs

open UpdateReplay (twoReleases undisturbed deployed deployedState deployedObject updateOrder)

/-- An attempt in which one effect fails. -/
def failingAt (label : Effect) : Attempt :=
  { undisturbed twoReleases with
    faults := fun effect => if effect = label then .fail "failed" else .none }

def sampleJob : UpdateJob :=
  orderedJob (updateOrder none) (deployedState .podman) 10 ["var", "secrets"]

/-- The sample update, failed at one effect. -/
def failedAt (label : Effect) : Outcome Failure UpdateExecution × Running :=
  runUpdate sampleJob (failingAt label) ⟨deployed .podman, freshSteps sampleJob⟩

theorem failedAt_start : FailedChange .podman twoReleases (deployed .podman)
    (failedAt (.start .change)).2 :=
  .update sampleJob rfl (failingAt (.start .change)) rfl ⟨.activationFailed, "failed"⟩ _
    (Prod.ext rfl rfl) rfl rfl rfl

theorem failedAt_probe : FailedChange .podman twoReleases (deployed .podman)
    (failedAt .probeHealth).2 :=
  .update sampleJob rfl (failingAt .probeHealth) rfl ⟨.healthProbeFailed, "failed"⟩ _
    (Prod.ext rfl rfl) rfl rfl rfl

theorem deployedObject_own : OwnContainer (deployedObject .podman) where
  labelled := ⟨"main", rfl⟩
  bound := ⟨_, _, rfl⟩

theorem undisturbed_performs : Performs (undisturbed twoReleases) where
  inspects := rfl
  removes := rfl
  creates := rfl
  starts := rfl
  stops := rfl

/-- An update whose new container does not start is undone. -/
theorem failed_start_undone : Undone .podman 10 (some ["var", "binary"])
    (failedAt (.start .change)).2.performed (undisturbed twoReleases)
    (failedAt (.start .change)).2.world (deployedObject .podman) := by
  refine (failed_change_undone_iff rfl deployedObject_own rfl failedAt_start (.inl rfl)
    undisturbed_performs 10 (some ["var", "binary"])).mpr ?_
  intro standing here
  cases here
  rfl

/-- An update whose new container runs without becoming ready is not. -/
theorem failed_probe_not_undone :
    OwnContainer (deployedObject .podman) ∧
      FailedChange .podman twoReleases (deployed .podman) (failedAt .probeHealth).2 ∧
      Performs (undisturbed twoReleases) ∧
      ¬Undone .podman 10 (some ["var", "binary"]) (failedAt .probeHealth).2.performed
        (undisturbed twoReleases) (failedAt .probeHealth).2.world (deployedObject .podman) := by
  refine ⟨deployedObject_own, failedAt_probe, undisturbed_performs, ?_⟩
  rintro ⟨w', restored, -⟩
  obtain ⟨replacement, -, -, idle⟩ := restoreRuntime_container rfl restored
  have stopped := idle _ rfl
  cases stopped

end inputs

end NazoAuthCtl.ContainerUndo
