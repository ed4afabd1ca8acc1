import NazoAuthCtl.RecoveryDispatch
import NazoAuthCtl.UninstallGenerations
import NazoAuthCtl.UpdateReplay

/-!
# Orders for a revision that is no longer held

Rollback, uninstall and recovery compare the revision before anything else, and
apply-config does nothing but its store commit. An update is compared only by the
commit at its end, after the config, the migration and the runtime. It is refused
before the first change exactly when there is nothing for it to change.
-/

set_option autoImplicit false
set_option linter.all false

namespace NazoAuthCtl.StaleRevision

open FaultProgram TargetState TargetWorld UpdateExec RollbackExec LifecycleDispatch
open UpdateAdmission UpdateSteps UpdateCompletion UpdateReplay RecoveryWorld RecoveryDispatch
open UninstallGenerations (Host Document UninstallOrder Refusal Deletion answerUninstall)
open Program

/-- The effects on the config, the database, the runtime and the objects of a deployment. -/
def changes : Effect → Bool
  | .writeConfig _ | .removeConfig | .grantConfigRead _ | .oneShot | .recordMigration | .stop _
  | .removeSource _ | .createReplacement _ | .stopUnit _ | .copyBinary _ | .start _ => true
  | _ => false

/-- Nothing fails but what would be a change. -/
def OnlyChangesFail (e : Attempt) : Prop :=
  ∀ effect, changes effect = false → e.faults effect = .none

/-- What an update refused in time may have added: local artifacts and a snapshot of the config. -/
structure Untouched (w w' : World) : Prop where
  runtime : w'.runtime = w.runtime
  config : w'.config = w.config
  secrets : w'.secrets = w.secrets
  state : w'.state = w.state
  accepted : w'.accepted = w.accepted
  history : w'.history = w.history

/-- One deployment on its host, as the executors of the orders see it. -/
structure Deployment where
  state : DeploymentState
  world : World
  host : Host
  restore : Restore
  loaded : world.state = some state
  documented : ∃ times, host.document = some ⟨state, times⟩

inductive HostOrder where
  | applyConfig (order : ApplyConfigOrder)
  | update (order : UpdateOrder)
  | rollback (order : RollbackOrder)
  | uninstall (order : UninstallOrder)
  | recover (order : RecoveryOrder)

def HostOrder.operationId : HostOrder → OperationId
  | .applyConfig order => order.operationId
  | .update order => order.operationId
  | .rollback order => order.operationId
  | .uninstall order => order.operationId
  | .recover order => order.operationId

def HostOrder.expectedRevision : HostOrder → ℕ
  | .applyConfig order => order.expectedRevision
  | .update order => order.expectedRevision
  | .rollback order => order.expectedRevision
  | .uninstall order => order.expectedRevision
  | .recover order => order.expectedRevision

section refusal

variable (sha256 : Document → Digest) (platform : Platform) (now : ℤ) (deployment : Deployment)

/-- The order is answered CONFIG_REVISION_MISMATCH whatever its changes would do, so that none
of them is reached. The other effects have to succeed: for an update all of them, for the others
the loading of the state document. -/
def RefusedStale : HostOrder → Prop
  | .applyConfig order => ∀ e : Attempt, e.faults .commitState = .none →
      ∃ d, answerApplyConfig order e deployment.world =
        (.error ⟨.configRevisionMismatch, d⟩, deployment.world)
  | .update order => ∀ e : Attempt, e.platform = platform → e.now = now → OnlyChangesFail e →
      ∃ d w', answerUpdate order e deployment.world = (.error ⟨.configRevisionMismatch, d⟩, w') ∧
        Untouched deployment.world w'
  | .rollback order => ∀ e : Attempt, e.faults .loadState = .none →
      ∃ d, answerRollback order e deployment.world =
        (.error ⟨.configRevisionMismatch, d⟩, deployment.world)
  | .uninstall order => ∀ e : Deletion, e.faults .loadState = .none →
      ∃ d, answerUninstall sha256 order e deployment.host =
        (.error ⟨"CONFIG_REVISION_MISMATCH", d⟩, deployment.host)
  | .recover order => ∀ e : RecoveryAttempt, e.faults .loadState = .none →
      ∃ d, answerBackupRecover order e ⟨deployment.state, deployment.restore⟩ =
        (.error ⟨.configRevisionMismatch, d⟩, ⟨deployment.state, deployment.restore⟩)

end refusal

/-- There is nothing for the update to change: it stages no config, orders no migration, and
the owned and healthy runtime already serves the selected artifact, which is not the recorded
one. -/
structure NothingToChange (platform : Platform) (now : ℤ) (order : UpdateOrder) (w : World)
    (state : DeploymentState) (job : UpdateJob) (facts : VerifiedArtifactFacts)
    (object : RuntimeObject) (config : Bytes) : Prop where
  precondition : validateBackupPrecondition order.backupPrecondition w.backup now = .ok ()
  built : updateJob order state = .ok job
  unfenced : state.appliedMigration = none
  unstaged : order.config = none
  unmigrated : order.migrationJws = none
  present : w.runtime = some object
  owned : Owned job.runtimeKind job.deploymentId object
  unit : job.runtimeKind ≠ .host
  verified : (verifiedRelease platform job.requestedVersion
    (versionFloorForUpdate job.requestedVersion job.currentVersion) >>=
      artifactFacts job.runtimeKind job.runtimeRoot) = .ok facts
  drifted : facts.digest ≠ job.currentArtifact
  configured : w.config = some config
  utf8 : platform.isUtf8 config = true
  signingKey : requireSharedSigningKeyRoot platform job.secretsRoot w.secrets config
    job.runtimeKind (observation platform job.runtimeKind object).mounts = .ok ()
  snapshot : ∀ record ∈ (w.configSnapshots order.operationId).record,
    record.schema = snapshotMetaSchema ∧ record.operationId = order.operationId ∧
      resumedSnapshotMatches platform (w.configSnapshots order.operationId) record
        state.config.schema none = true
  confirmed : Confirmed platform job.runtimeKind facts.digest job.port job.issuer w

/-! ## Orders that compare the revision first -/

theorem answerApplyConfig_stale {order : ApplyConfigOrder} {e : Attempt} {w : World}
    {state : DeploymentState} (fault : e.faults .commitState = .none)
    (loaded : w.state = some state) (stale : state.config.revision ≠ order.expectedRevision)
    (foreign : ¬state.producedBy order.operationId) :
    answerApplyConfig order e w = (.error (revisionMismatch order.expectedRevision state), w) := by
  have refused : applyConfig state order.expectedRevision order.reference order.schema
      order.operationId = .error (revisionMismatch order.expectedRevision state) := by
    rw [applyConfig, if_neg foreign, if_pos stale]
  unfold answerApplyConfig storeState
  rw [run_bind_error]
  rw [perform_none _ _ _ fault, run_bind_ok run_get]
  simp only [loaded]
  rw [run_bind_error (by rw [refused, run_ofExcept]; rfl)]

theorem answerRollback_stale {order : RollbackOrder} {e : Attempt} {w : World}
    {state : DeploymentState} (fault : e.faults .loadState = .none)
    (loaded : w.state = some state) (stale : state.config.revision ≠ order.expectedRevision)
    (foreign : ¬state.producedBy order.operationId) :
    answerRollback order e w = (.error (revisionMismatch order.expectedRevision state), w) := by
  unfold answerRollback
  rw [run_bind_ok (loadState_unfaulted fault loaded), if_neg foreign,
    run_bind_error (by rw [run_require, if_neg stale])]

theorem answerUninstall_stale {sha256 : Document → Digest} {order : UninstallOrder}
    {e : Deletion} {host : Host} {document : Document} (fault : e.faults .loadState = .none)
    (documented : host.document = some document)
    (stale : document.state.config.revision ≠ order.expectedRevision) :
    answerUninstall sha256 order e host = (.error ⟨"CONFIG_REVISION_MISMATCH",
      "uninstall plan no longer matches the deployment revision"⟩, host) := by
  have read : UninstallGenerations.loadExisting e host = (.ok document, host) := by
    simp [UninstallGenerations.loadExisting, UninstallGenerations.deleting, Program.effect, fault,
      run_bind, documented]
  unfold answerUninstall
  rw [run_bind_ok read, run_bind_error (by rw [run_require, if_neg stale])]

/-! ## Failures that are not about the revision -/

def NotStale (failure : Failure) : Prop := failure.code ≠ .configRevisionMismatch

theorem failsOnly_perform {α : Type} {label : Effect} {code : FailureCode} {body : Exec α}
    (other : code ≠ .configRevisionMismatch) (h : FailsOnly body NotStale) :
    FailsOnly (perform label code body) NotStale :=
  failsOnly_effect (fun _ => other) h

theorem failsOnly_onWorld {α : Type} {p : Exec α} (h : FailsOnly p NotStale) :
    FailsOnly (onWorld p) NotStale :=
  failsOnly_zoom _ _ h

theorem validateBackupPrecondition_notStale {precondition : UpdateBackupPrecondition}
    {projection : Except String (Option SnapshotProjection)} {now : ℤ} (x : Failure)
    (h : validateBackupPrecondition precondition projection now = .error x) : NotStale x := by
  unfold validateBackupPrecondition validateLoadedBackupProjection preconditionFailed at h
  repeat' split at h
  all_goals
    cases h
    try exact nofun

theorem updateJob_notStale {order : UpdateOrder} {state : DeploymentState} (x : Failure)
    (h : updateJob order state = .error x) : NotStale x := by
  unfold updateJob at h
  repeat' split at h
  all_goals
    cases h
    try exact nofun

theorem admitObservation_notStale {job : UpdateJob} {observed : RuntimeObservation} (x : Failure)
    (h : admitObservation job observed = .error x) : NotStale x := by
  unfold admitObservation requireObservationOwned requireHostArtifactContinuity at h
  repeat' split at h
  all_goals
    cases h
    try exact nofun

theorem verifiedRelease_notStale {platform : Platform} {requested floor : Option ReleaseVersion}
    (x : Failure) (h : verifiedRelease platform requested floor = .error x) : NotStale x := by
  unfold verifiedRelease at h
  repeat' split at h
  all_goals
    cases h
    try exact nofun

theorem artifactFacts_notStale {kind : RuntimeBackendKind} {runtimeRoot : Option Path}
    {release : VerifiedRelease} (x : Failure)
    (h : artifactFacts kind runtimeRoot release = .error x) : NotStale x := by
  unfold artifactFacts at h
  repeat' split at h
  all_goals
    cases h
    try exact nofun

theorem requireSharedSigningKeyRoot_notStale {platform : Platform} {secretsRoot : Path}
    {secrets : Option Tree} {config : Bytes} {kind : RuntimeBackendKind}
    {mounts : List NeutralMount} (x : Failure)
    (h : requireSharedSigningKeyRoot platform secretsRoot secrets config kind mounts = .error x) :
    NotStale x := by
  unfold requireSharedSigningKeyRoot at h
  repeat' split at h
  all_goals
    cases h
    try exact nofun

theorem replacementFromObservation_notStale {observed : RuntimeObservation}
    {artifact : ArtifactReference} (x : Failure)
    (h : replacementFromObservation observed artifact = .error x) : NotStale x := by
  unfold replacementFromObservation at h
  repeat' split at h
  all_goals
    cases h
    try exact nofun

theorem exactReplacementFromObservation_notStale {observed : RuntimeObservation} (x : Failure)
    (h : exactReplacementFromObservation observed = .error x) : NotStale x := by
  unfold exactReplacementFromObservation at h
  split at h
  · cases h
    exact nofun
  · exact replacementFromObservation_notStale x h

theorem planReplacement_notStale {job : UpdateJob} {observed : RuntimeObservation} {live : Digest}
    {facts : VerifiedArtifactFacts} (x : Failure)
    (h : planReplacement job observed live facts = .error x) : NotStale x := by
  unfold planReplacement at h
  split at h
  case isFalse => cases h
  rcases bind_eq_error h with h | ⟨replacement, -, h⟩
  · exact replacementFromObservation_notStale x h
  split at h
  case isFalse => cases h
  rcases bind_eq_error h with h | ⟨before, -, h⟩
  · exact exactReplacementFromObservation_notStale x h
  · cases h

theorem inspect_notStale (kind : RuntimeBackendKind) (site : Site) :
    FailsOnly (inspect kind site) NotStale := by
  refine failsOnly_perform nofun (failsOnly_bind failsOnly_environment fun attempt =>
    failsOnly_bind failsOnly_get fun w => ?_)
  cases w.runtime with
  | none => exact failsOnly_throw nofun
  | some object => exact failsOnly_pure _

theorem verifyPinnedArtifactFacts_notStale (kind : RuntimeBackendKind)
    (requested floor : Option ReleaseVersion) (runtimeRoot : Option Path) :
    FailsOnly (verifyPinnedArtifactFacts kind requested floor runtimeRoot) NotStale := by
  refine failsOnly_bind (failsOnly_perform nofun (failsOnly_bind failsOnly_environment fun _ =>
    failsOnly_bind (failsOnly_ofExcept fun x h => verifiedRelease_notStale x h) fun _ =>
      failsOnly_ofExcept fun x h => artifactFacts_notStale x h)) fun facts => ?_
  refine failsOnly_bind (failsOnly_perform ?_ (failsOnly_modify _)) fun _ => failsOnly_pure _
  by_cases unit : kind = .host
  · rw [if_pos unit]
    exact nofun
  · rw [if_neg unit]
    exact nofun

theorem readUpdateConfig_notStale (job : UpdateJob) :
    FailsOnly (readUpdateConfig job) NotStale := by
  unfold readUpdateConfig
  cases job.config with
  | some staged => exact failsOnly_pure _
  | none =>
    refine failsOnly_perform nofun (failsOnly_bind failsOnly_environment fun attempt =>
      failsOnly_bind failsOnly_get fun w => ?_)
    cases w.config with
    | none => exact failsOnly_throw nofun
    | some bytes => exact failsOnly_bind (failsOnly_require _ nofun) fun _ => failsOnly_pure _

theorem admitUpdate_notStale (job : UpdateJob) : FailsOnly (admitUpdate job) NotStale := by
  unfold admitUpdate
  refine failsOnly_bind (failsOnly_perform nofun (failsOnly_pure _)) fun _ =>
    failsOnly_bind failsOnly_environment fun attempt =>
    failsOnly_bind (failsOnly_require _ nofun) fun _ =>
    failsOnly_bind (inspect_notStale _ _) fun observed =>
    failsOnly_bind (failsOnly_ofExcept fun x h => admitObservation_notStale x h) fun live =>
    failsOnly_bind (verifyPinnedArtifactFacts_notStale _ _ _ _) fun verified => ?_
  simp only
  split_ifs
  · exact failsOnly_pure _
  refine failsOnly_bind (readUpdateConfig_notStale job) fun read =>
    failsOnly_bind (failsOnly_perform nofun (failsOnly_bind failsOnly_get fun w =>
      failsOnly_ofExcept fun x h => requireSharedSigningKeyRoot_notStale x h)) fun _ =>
    failsOnly_bind (failsOnly_ofExcept fun x h => planReplacement_notStale x h) fun planned =>
    failsOnly_pure _

theorem saveCurrentConfig_notStale (job : UpdateJob) (plan : UpdatePlan) :
    FailsOnly (saveCurrentConfig job plan) NotStale := by
  unfold saveCurrentConfig snapshotConfig
  refine failsOnly_bind failsOnly_get fun run => failsOnly_onlyIf _ (failsOnly_bind
    (failsOnly_onWorld (failsOnly_bind failsOnly_environment fun attempt =>
      failsOnly_bind (failsOnly_perform nofun (failsOnly_bind failsOnly_get fun _ =>
        failsOnly_pure _)) fun snapshot => ?_)) fun _ => failsOnly_modify _)
  cases snapshot.record with
  | some record =>
    exact failsOnly_bind (failsOnly_require _ nofun) fun _ =>
      failsOnly_bind (failsOnly_require _ nofun) fun _ => failsOnly_require _ nofun
  | none =>
    refine failsOnly_bind (failsOnly_perform nofun (failsOnly_bind failsOnly_get fun w => ?_))
      fun bytes => failsOnly_perform nofun (failsOnly_modify _)
    cases plan.currentConfig.or w.config with
    | none => exact failsOnly_throw nofun
    | some bytes => exact failsOnly_bind (failsOnly_modify _) fun _ => failsOnly_pure _

theorem changeRuntime_notStale (label : Effect) (change : RuntimeObject → RuntimeObject)
    (event : RuntimeObject → RuntimeEvent) :
    FailsOnly (changeRuntime label change event) NotStale := by
  refine failsOnly_perform nofun (failsOnly_bind failsOnly_get fun w => ?_)
  cases w.runtime with
  | none => exact failsOnly_throw nofun
  | some object => exact failsOnly_modify _

theorem mayRemoveSource_notStale {replacement : RuntimeReplacement} {object : RuntimeObject}
    (x : Failure) (h : mayRemoveSource replacement object = .error x) : NotStale x := by
  unfold mayRemoveSource at h
  repeat' split at h
  all_goals
    cases h
    try exact nofun

theorem replace_notStale (kind : RuntimeBackendKind) (site : Site)
    (replacement : RuntimeReplacement) : FailsOnly (replace kind site replacement) NotStale := by
  unfold replace
  split_ifs
  · unfold replaceContainer
    split
    · refine failsOnly_bind (failsOnly_bind (failsOnly_perform nofun
        (failsOnly_bind failsOnly_get fun _ => failsOnly_pure _)) fun source => ?_)
        fun _ => failsOnly_perform nofun (failsOnly_modify _)
      cases source with
      | none => exact failsOnly_pure _
      | some object =>
        exact failsOnly_bind (failsOnly_ofExcept fun x h => mayRemoveSource_notStale x h)
          fun _ => failsOnly_perform nofun (failsOnly_modify _)
    · exact failsOnly_throw nofun
  · unfold replaceUnit
    split
    · exact failsOnly_bind failsOnly_get fun w =>
        failsOnly_bind (failsOnly_require _ nofun) fun _ =>
        failsOnly_bind (changeRuntime_notStale _ _ _) fun _ => changeRuntime_notStale _ _ _
    · exact failsOnly_throw nofun

theorem activateRuntime_notStale (job : UpdateJob) (plan : UpdatePlan) :
    FailsOnly (activateRuntime job plan) NotStale := by
  unfold activateRuntime
  cases plan.replacement with
  | none => exact failsOnly_pure _
  | some replacement =>
    exact failsOnly_bind (failsOnly_onlyIf _ (failsOnly_onWorld (changeRuntime_notStale _ _ _)))
      fun _ => failsOnly_bind (failsOnly_modify _) fun _ =>
      failsOnly_bind (failsOnly_onWorld (replace_notStale _ _ _)) fun _ =>
      failsOnly_onWorld (changeRuntime_notStale _ _ _)

theorem confirmRuntime_notStale (kind : RuntimeBackendKind) (digest : Digest) (port : ℕ)
    (issuer mismatch : String) :
    FailsOnly (confirmRuntime kind digest port issuer mismatch) NotStale := by
  unfold confirmRuntime probeLocalHealth
  refine failsOnly_bind (inspect_notStale _ _) fun activated =>
    failsOnly_bind (failsOnly_require _ nofun) fun _ => failsOnly_perform nofun
      (failsOnly_bind failsOnly_environment fun attempt => failsOnly_bind failsOnly_get fun w => ?_)
  split
  · exact failsOnly_throw nofun
  · exact failsOnly_throw nofun
  · exact failsOnly_require _ nofun

/-! ## Only when there is nothing to change -/

/-- Every change is cut off, and everything else succeeds. -/
def withheld (platform : Platform) (now : ℤ) : Attempt where
  platform
  faults effect := if changes effect then .crash else .none
  oneShot := ⟨none, .noFrame⟩
  now

def StaleAnswer {α : Type} (o : Outcome Failure α) : Prop :=
  ∃ d, o = .error ⟨.configRevisionMismatch, d⟩

theorem not_staleAnswer {ρ σ α : Type} {p : Program ρ σ Failure α} (h : FailsOnly p NotStale)
    (e : ρ) (s : σ) : ¬StaleAnswer (p e s).1 := by
  rintro ⟨d, refused⟩
  exact h e s ⟨.configRevisionMismatch, d⟩ (p e s).2 (Prod.ext refused rfl) rfl

/-- A refusal as stale that does not come from the first part comes from the second. -/
theorem staleAnswer_bind {ρ σ α β : Type} {p : Program ρ σ Failure α}
    {f : α → Program ρ σ Failure β} {e : ρ} {s : σ} (other : ¬StaleAnswer (p e s).1)
    (h : StaleAnswer ((p >>= f) e s).1) :
    ∃ a s₁, p e s = (.ok a, s₁) ∧ StaleAnswer (f a e s₁).1 := by
  rcases first : p e s with ⟨a | x | _, s₁⟩
  · rw [run_bind_ok first] at h
    exact ⟨a, s₁, rfl, h⟩
  · rw [run_bind_error first] at h
    obtain ⟨d, h⟩ := h
    cases h
    exact absurd ⟨d, by rw [first]⟩ other
  · rw [run_bind_crashed first] at h
    obtain ⟨d, h⟩ := h
    cases h

section withheld

variable {platform : Platform} {now : ℤ} {job : UpdateJob} {plan : UpdatePlan} {run run' : Running}

theorem withheld_onlyChangesFail : OnlyChangesFail (withheld platform now) := by
  intro effect unchanging
  simp [withheld, unchanging]

theorem perform_withheld {α : Type} {label : Effect} {code : FailureCode} {body : Exec α}
    {w : World} (changing : changes label = true) :
    perform label code body (withheld platform now) w = (.crashed, w) :=
  perform_crash _ _ _ (by simp [withheld, changing])

theorem writeStagedConfig_withheld {staged : StagedConfig} (present : job.config = some staged) :
    (writeStagedConfig job (withheld platform now) run).1 = .crashed := by
  rw [writeStagedConfig, present]
  simp only
  rw [run_bind_crashed (by rw [run_onWorld, writeConfig, perform_withheld rfl])]

theorem askMigration_withheld (requestHash : Digest) (run : Running) :
    ∃ run', askMigration job requestHash (withheld platform now) run = (.crashed, run') := by
  have lost : ∀ w, runOneShot job.operationId (withheld platform now) w = (.crashed, w) := by
    intro w
    simp [runOneShot, withheld, changes]
  unfold askMigration
  rw [run_bind_ok (run_note _), run_bind_crashed (by rw [run_onWorld, lost])]
  exact ⟨_, rfl⟩

/-- An ordered migration stops at its task, if it gets that far. -/
theorem dispatchMigration_withheld {jws : Bytes} (ordered : job.migrationJws = some jws) :
    ¬StaleAnswer (dispatchMigration job plan (withheld platform now) run).1 ∧
      ∀ result, (dispatchMigration job plan (withheld platform now) run).1 ≠ .ok result := by
  rw [dispatchMigration, ordered]
  simp only
  cases job.migrationRequestHash with
  | none =>
    constructor
    · rintro ⟨d, stale⟩
      cases stale
    · intro result answered
      cases answered
  | some requestHash =>
    constructor
    · intro stale
      have urls : ¬StaleAnswer (onWorld (perform .readDatabaseUrls .hostErrOperationInvalid do
          let attempt ← Program.environment
          Program.require (databaseUrlsUsable attempt.platform (← Program.get).secrets)
            ⟨.hostErrOperationInvalid, "database URLs are unusable"⟩)
              (withheld platform now) run).1 := by
        apply not_staleAnswer
        apply failsOnly_onWorld
        have current : FailureCode.hostErrOperationInvalid ≠ .configRevisionMismatch := by
          intro stale
          cases stale
        exact failsOnly_perform current (failsOnly_bind failsOnly_environment fun _ =>
          failsOnly_bind failsOnly_get fun _ => failsOnly_require _ current)
      obtain ⟨_, run₁, -, stale⟩ := staleAnswer_bind urls stale
      obtain ⟨run₂, asked⟩ := @askMigration_withheld platform now job requestHash run₁
      rw [run_bind_crashed asked] at stale
      obtain ⟨d, h⟩ := stale
      cases h
    · intro result h
      obtain ⟨_, run₁, -, h⟩ := run_bind_eq_ok (Prod.ext h rfl)
      obtain ⟨run₂, asked⟩ := @askMigration_withheld platform now job requestHash run₁
      rw [run_bind_crashed asked] at h
      cases h

/-- A replacement ends with a start. -/
theorem activateRuntime_withheld
    (h : activateRuntime job plan (withheld platform now) run = (.ok (), run')) :
    plan.replacement = none ∧ run' = run := by
  unfold activateRuntime at h
  cases planned : plan.replacement with
  | none =>
    rw [planned] at h
    cases h
    exact ⟨rfl, rfl⟩
  | some replacement =>
    rw [planned] at h
    obtain ⟨_, run₁, -, h⟩ := run_bind_eq_ok h
    obtain ⟨_, run₂, -, h⟩ := run_bind_eq_ok h
    obtain ⟨_, run₃, -, h⟩ := run_bind_eq_ok h
    rw [run_onWorld, start, changeRuntime, perform_withheld rfl] at h
    cases h

end withheld

section onlyIf

variable {platform : Platform} {now : ℤ} {job : UpdateJob} {plan : UpdatePlan} {run : Running}

theorem saveCurrentConfig_ok {e : Attempt} {run' : Running}
    (h : saveCurrentConfig job plan e run = (.ok (), run')) :
    Saved e.platform job plan run.world run'.world ∧
      run'.performed.migrationApplied = run.performed.migrationApplied := by
  unfold saveCurrentConfig at h
  rw [run_bind_ok run_get] at h
  by_cases present : run.world.config.isSome = true
  · rw [run_onlyIf_true _ present] at h
    obtain ⟨_, run₁, snapshotted, noted⟩ := run_bind_eq_ok h
    have snapshot := snapshotConfig_ensures job.operationId job.configSchema
      (job.config.map (·.schema)) plan.currentConfig e run.world
    rw [run_onWorld] at snapshotted
    obtain ⟨finished, rfl⟩ := Prod.mk.inj snapshotted
    cases noted
    rw [Ensures, finished] at snapshot
    exact ⟨.inl ⟨present, snapshot⟩, rfl⟩
  · rw [run_onlyIf_false _ present] at h
    cases h
    exact ⟨.inr ⟨by simpa using present, rfl⟩, rfl⟩

theorem confirmAndCommit_performed (job : UpdateJob) (plan : UpdatePlan) (e : Attempt)
    (run : Running) : (confirmAndCommit job plan e run).2.performed = run.performed := by
  have trans : ∀ a b c : Running, b.performed = a.performed → c.performed = b.performed →
      c.performed = a.performed := fun _ _ _ first second => second.trans first
  have kept : Keeps (confirmAndCommit job plan) fun run run' => run'.performed = run.performed :=
    keeps_bind trans (fun _ _ => rfl) fun _ =>
      keeps_bind trans (keeps_get fun _ => rfl) fun _ =>
      keeps_bind trans (fun _ _ => rfl) fun _ _ _ => rfl
  exact kept e run

theorem stageConfig_notStale (job : UpdateJob) (plan : UpdatePlan) :
    FailsOnly (stageConfig job plan) NotStale := by
  refine failsOnly_bind (saveCurrentConfig_notStale job plan) fun _ => ?_
  unfold writeStagedConfig
  cases job.config with
  | none => exact failsOnly_pure ()
  | some staged =>
    exact failsOnly_bind (failsOnly_onWorld (failsOnly_perform nofun (failsOnly_modify _)))
      fun _ => failsOnly_bind (failsOnly_modify _) fun _ =>
      failsOnly_onWorld (failsOnly_perform nofun (failsOnly_pure ()))

theorem stageConfig_withheld {run' : Running}
    (h : stageConfig job plan (withheld platform now) run = (.ok (), run')) :
    job.config = none ∧ Saved platform job plan run.world run'.world ∧
      run'.performed.migrationApplied = run.performed.migrationApplied := by
  obtain ⟨_, run₁, saved, written⟩ := run_bind_eq_ok h
  cases unstaged : job.config with
  | none =>
    rw [writeStagedConfig, unstaged] at written
    cases written
    exact ⟨rfl, saveCurrentConfig_ok saved⟩
  | some staged =>
    have lost := @writeStagedConfig_withheld platform now job run₁ staged unstaged
    rw [written] at lost
    cases lost

theorem confirmAndCommit_stale {α : Type} {f : LifecycleFacts → α} {e : Attempt}
    (h : StaleAnswer ((confirmAndCommit job plan >>= fun facts => Pure.pure (f facts)) e run).1) :
    Confirmed e.platform job.runtimeKind plan.verified.digest job.port job.issuer run.world ∧
      ((confirmAndCommit job plan >>= fun facts => Pure.pure (f facts)) e run).2.performed =
        run.performed := by
  have performed := confirmAndCommit_performed job plan e run
  rcases committed : confirmAndCommit job plan e run with ⟨facts | x | _, run'⟩
  · rw [run_bind_ok committed] at h
    obtain ⟨d, h⟩ := h
    cases h
  · rw [run_bind_error committed] at h ⊢
    rw [committed] at performed
    have stale : StaleAnswer (confirmAndCommit job plan e run).1 := by
      obtain ⟨d, h⟩ := h
      cases h
      exact ⟨d, by rw [committed]⟩
    obtain ⟨_, run₁, confirmed, -⟩ := staleAnswer_bind
      (not_staleAnswer (failsOnly_onWorld (confirmRuntime_notStale _ _ _ _ _)) _ _) stale
    have ensured := confirmRuntime_ensures job.runtimeKind plan.verified.digest job.port job.issuer
      "the started runtime does not serve the verified artifact" e run.world
    exact ⟨ensured.2 (congrArg Prod.fst confirmed), performed⟩
  · rw [run_bind_crashed committed] at h
    obtain ⟨d, h⟩ := h
    cases h

/-- An attempt that is refused as stale with every change cut off had none to make. -/
theorem carryOut_stale (h : StaleAnswer (carryOut job plan (withheld platform now) run).1) :
    job.config = none ∧ job.migrationJws = none ∧ plan.replacement = none ∧
      (∃ w₁, Saved platform job plan run.world w₁ ∧
        Confirmed platform job.runtimeKind plan.verified.digest job.port job.issuer w₁) ∧
      (carryOut job plan (withheld platform now) run).2.performed.migrationApplied =
        run.performed.migrationApplied := by
  have kept : (retained plan run).performed.migrationApplied = run.performed.migrationApplied := by
    unfold retained retainRuntime
    cases plan.before <;> rfl
  have noted : note (retainRuntime plan.before plan.observation) (withheld platform now) run =
      (.ok (), retained plan run) := rfl
  unfold carryOut at h ⊢
  rw [run_bind_ok noted] at h ⊢
  obtain ⟨_, run₁, staged, h⟩ := staleAnswer_bind
    (not_staleAnswer (stageConfig_notStale job plan) _ _) h
  rw [run_bind_ok staged]
  obtain ⟨unstaged, saved, before⟩ := stageConfig_withheld staged
  cases unmigrated : job.migrationJws with
  | some jws =>
    obtain ⟨never, unanswered⟩ := @dispatchMigration_withheld platform now job plan run₁ jws unmigrated
    obtain ⟨result, run₂, dispatched, -⟩ := staleAnswer_bind never h
    exact absurd (congrArg Prod.fst dispatched) (unanswered result)
  | none =>
    have dispatched : dispatchMigration job plan (withheld platform now) run₁ =
        (.ok none, run₁) := by
      rw [dispatchMigration, unmigrated]
      rfl
    rw [run_bind_ok dispatched] at h ⊢
    simp only at h ⊢
    obtain ⟨_, run₂, activated, stale⟩ := staleAnswer_bind
      (not_staleAnswer (activateRuntime_notStale job plan) _ _) h
    rw [run_bind_ok activated]
    obtain ⟨unreplaced, rfl⟩ := activateRuntime_withheld activated
    obtain ⟨confirmed, performed⟩ := confirmAndCommit_stale stale
    exact ⟨unstaged, trivial, unreplaced, ⟨_, saved, confirmed⟩,
      (congrArg (·.migrationApplied) performed).trans (before.trans kept)⟩

end onlyIf

section nothing

variable {platform : Platform} {now : ℤ} {order : UpdateOrder} {job : UpdateJob}
  {plan : UpdatePlan} {w : World} {state : DeploymentState}

theorem concludeUpdate_stale {performed : PerformedSteps} {o : Outcome Failure UpdateExecution}
    {e : Attempt} (h : StaleAnswer (concludeUpdate job performed o e w).1) :
    StaleAnswer o ∧ performed.migrationApplied = false := by
  obtain ⟨d, stale⟩ := h
  cases o with
  | crashed => cases stale
  | ok execution =>
    cases execution with
    | migrationFailed result =>
      have concluded : ConcludedFailedMigration job performed result e w _ _ :=
        concludeFailedMigration_ensures job performed result e w
      rw [concludeUpdate] at stale
      rw [stale] at concluded
      generalize (concludeFailedMigration job performed result e w).2 = w' at concluded
      cases concluded with
      | fenced _ _ _ _ answer =>
        rcases answer with h | ⟨detail, h⟩
        · cases h
        · cases h
      | undone _ _ answer =>
        rcases answer with h | h | ⟨detail, h⟩
        · cases h
        · cases h
        · cases h
    | noop revision => cases stale
    | activated facts => cases stale
    | recoveryRequired result detail => cases stale
  | error failure =>
    have concluded : ConcludedFailure job performed failure.code e w _ _ :=
      concludeFailure_ensures job performed failure e w
    rw [concludeUpdate] at stale
    rw [stale] at concluded
    generalize (concludeFailure job performed failure e w).2 = w' at concluded
    cases concluded with
    | fenced _ _ _ _ answer =>
      rcases answer with h | ⟨detail, h⟩ | ⟨result, detail, -, h⟩
      · cases h
      · cases h
      · cases h
    | unknown _ _ _ _ _ answer =>
      rcases answer with h | ⟨detail, h⟩
      · cases h
      · cases h
    | undone unapplied _ _ answer =>
      rcases answer with h | ⟨detail, h⟩
      · cases h
      · obtain ⟨code, -⟩ := Failure.mk.inj (Outcome.error.inj h)
        exact ⟨⟨failure.detail, by rw [code]⟩, unapplied⟩

/-- What a plan of an update that is refused in time says about the world it was made in. -/
theorem nothingToChange_of_plan
    (precondition : validateBackupPrecondition order.backupPrecondition w.backup now = .ok ())
    (built : updateJob order state = .ok job)
    (admitted : admission platform job w = .ok (some plan)) (unfenced : state.appliedMigration = none)
    (unstaged : job.config = none) (unmigrated : job.migrationJws = none)
    (unreplaced : plan.replacement = none) {w₁ : World}
    (saved : Saved platform job plan (keepArtifact plan.verified.runtimeArtifact w) w₁)
    (confirmed : Confirmed platform job.runtimeKind plan.verified.digest job.port job.issuer w₁) :
    ∃ object config, NothingToChange platform now order w state job plan.verified object config := by
  obtain ⟨current, secrets, hcurrent, hsecrets, hdata, rfl⟩ := updateJob_ok built
  obtain ⟨object, live, admitted⟩ := admission_some admitted
  have kept := keepArtifact_kept plan.verified.runtimeArtifact w
  have serves : live = plan.verified.digest := by
    rcases planReplacement_ok admitted.replacement with ⟨unneeded, -, -⟩ | ⟨-, replaced, -⟩
    · simpa [runtimeReplacementRequired, unstaged] using unneeded
    · rw [unreplaced] at replaced
      cases replaced
  have drifted : plan.verified.digest ≠ current := by
    intro recorded
    apply admitted.needed
    simp [orderedJob, unfenced, updateIsNoop, serves, recorded, show order.config = none from unstaged]
  obtain ⟨config, configured, utf8, source⟩ : ∃ config, w.config = some config ∧
      platform.isUtf8 config = true ∧ updateConfig platform (orderedJob order state current secrets) w
        = .ok (config, some config) := by
    obtain ⟨text, read, -⟩ := admitted.config
    unfold updateConfig at read ⊢
    rw [unstaged] at read ⊢
    cases configured : w.config with
    | none =>
      rw [configured] at read
      cases read
    | some config =>
      rw [configured] at read
      by_cases utf8 : platform.isUtf8 config = true
      · exact ⟨config, rfl, utf8, by simp [utf8]⟩
      · simp only [if_neg utf8] at read
        cases read
  obtain ⟨text, read, signingKey⟩ := admitted.config
  rw [source] at read
  obtain ⟨rfl, -⟩ := Prod.mk.inj (Except.ok.inj read)
  rw [admitted.observed] at signingKey
  refine ⟨object, config, {
    precondition, built, unfenced, unstaged, unmigrated, drifted, configured, utf8, signingKey
    present := admitted.present
    owned := admitted.owned
    unit := fun host => drifted (serves.symm.trans (admitted.continuity host))
    verified := admitted.verified
    snapshot := ?_
    confirmed := ?_ }⟩
  · intro record recorded
    rcases saved with ⟨-, snapshot⟩ | ⟨absent, -⟩
    · cases snapshot with
      | resumed record' bytes present obsolete owner digest schemas =>
        rw [kept.snapshots] at present
        have present : w.configSnapshots order.operationId = ⟨some bytes, some record'⟩ := present
        rw [present] at recorded
        cases recorded
        refine ⟨obsolete, owner, ?_⟩
        rw [present]
        rw [unstaged] at schemas
        simpa [resumedSnapshotMatches, digest, orderedJob] using schemas
      | bytesOnly _ unfinished => exact absurd rfl unfinished
      | saved bytes source absent =>
        rw [kept.snapshots] at absent
        have absent : (w.configSnapshots order.operationId).record = none := absent
        rw [absent] at recorded
        cases recorded
    · rw [kept.config, configured] at absent
      cases absent
  · obtain ⟨confirmedObject, config', hruntime, hconfig, rest⟩ := confirmed
    rw [saved.world] at hruntime hconfig
    exact ⟨confirmedObject, config', kept.runtime.symm.trans hruntime,
      kept.config.symm.trans hconfig, rest⟩

end nothing

section update

variable {platform : Platform} {now : ℤ} {order : UpdateOrder} {job : UpdateJob} {w : World}
  {state : DeploymentState}

theorem runUpdate_stale
    (precondition : validateBackupPrecondition order.backupPrecondition w.backup now = .ok ())
    (built : updateJob order state = .ok job)
    (h : StaleAnswer (runUpdate job (withheld platform now) ⟨w, freshSteps job⟩).1)
    (reversible : (runUpdate job (withheld platform now)
      ⟨w, freshSteps job⟩).2.performed.migrationApplied = false) :
    ∃ facts object config, NothingToChange platform now order w state job facts object config := by
  unfold runUpdate at h reversible
  obtain ⟨admitted, run₁, ran, stale⟩ := staleAnswer_bind
    (not_staleAnswer (failsOnly_onWorld (admitUpdate_notStale job)) _ _) h
  rw [run_bind_ok ran] at reversible
  have ensured := (admitUpdate_ensures job (withheld platform now) w).2
  rw [run_onWorld] at ran
  obtain ⟨answer, rfl⟩ := Prod.mk.inj ran
  obtain ⟨admission_eq, kept⟩ := ensured admitted answer
  cases admitted with
  | none =>
    obtain ⟨d, stale⟩ := stale
    cases stale
  | some plan =>
    obtain ⟨unstaged, unmigrated, unreplaced, ⟨w₁, saved, confirmed⟩, performed⟩ :=
      carryOut_stale stale
    have unfenced : state.appliedMigration = none := by
      have fresh := performed.symm.trans reversible
      obtain ⟨current, secrets, -, -, -, rfl⟩ := updateJob_ok built
      simpa [freshSteps, orderedJob] using fresh
    simp only [kept plan rfl] at saved
    exact ⟨plan.verified, nothingToChange_of_plan precondition built admission_eq unfenced unstaged
      unmigrated unreplaced saved confirmed⟩

theorem answerUpdate_withheld (loaded : w.state = some state)
    (h : StaleAnswer (answerUpdate order (withheld platform now) w).1) :
    ∃ job facts object config,
      NothingToChange platform now order w state job facts object config := by
  unfold answerUpdate at h
  rw [run_bind_ok (loadState_unfaulted (withheld_onlyChangesFail _ rfl) loaded),
    run_bind_ok run_environment, run_bind_ok run_get] at h
  cases precondition : validateBackupPrecondition order.backupPrecondition w.backup now with
  | error x =>
    obtain ⟨_, _, passed, -⟩ := staleAnswer_bind (not_staleAnswer
      (failsOnly_ofExcept fun x h => validateBackupPrecondition_notStale x h) _ _) h
    rw [run_ofExcept] at passed
    rw [show (withheld platform now).now = now from rfl, precondition] at passed
    cases passed
  | ok _ =>
    rw [show (withheld platform now).now = now from rfl, precondition,
      run_bind_ok run_ofExcept_ok] at h
    cases built : updateJob order state with
    | error x =>
      rw [built] at h
      obtain ⟨d, h⟩ := h
      cases h
      exact absurd rfl (updateJob_notStale _ built)
    | ok job =>
      rw [built, run_bind_ok run_ofExcept_ok] at h
      have executed : StaleAnswer (executeUpdate job (withheld platform now) w).1 := by
        rcases ran : executeUpdate job (withheld platform now) w with ⟨execution | x | _, w'⟩
        · rw [run_bind_ok ran] at h
          obtain ⟨d, h⟩ := h
          cases h
        · rw [run_bind_error ran] at h
          obtain ⟨d, h⟩ := h
          cases h
          exact ⟨d, rfl⟩
        · rw [run_bind_crashed ran] at h
          obtain ⟨d, h⟩ := h
          cases h
      unfold executeUpdate at executed
      by_cases own : ∀ operation ∈ job.appliedMigrationOperationId, operation = job.operationId
      case neg =>
        rw [run_bind_error (by rw [run_require, if_neg own])] at executed
        obtain ⟨d, executed⟩ := executed
        cases executed
      rw [run_bind_ok (by rw [run_require, if_pos own])] at executed
      obtain ⟨stale, reversible⟩ := concludeUpdate_stale executed
      exact ⟨job, runUpdate_stale precondition built stale reversible⟩

end update

/-! ## Whenever there is nothing to change -/

section inTime

variable {order : UpdateOrder} {e : Attempt} {w : World} {state : DeploymentState} {job : UpdateJob}
  {facts : VerifiedArtifactFacts} {object : RuntimeObject} {config : Bytes}

/-- The plan of an update that has nothing to change. -/
def idlePlan (platform : Platform) (job : UpdateJob) (facts : VerifiedArtifactFacts)
    (object : RuntimeObject) (config : Bytes) : UpdatePlan where
  observation := observation platform job.runtimeKind object
  verified := facts
  recordedCurrentWasLive := false
  currentConfig := some config
  replacement := none
  before := none

theorem admission_idle {platform : Platform} {now : ℤ}
    (nothing : NothingToChange platform now order w state job facts object config) :
    admission platform job w = .ok (some (idlePlan platform job facts object config)) := by
  obtain ⟨current, secrets, hcurrent, hsecrets, hdata, rfl⟩ := updateJob_ok nothing.built
  obtain ⟨release, hrelease, hfacts⟩ := bind_eq_ok nothing.verified
  obtain ⟨_, _, present, -, -, digest, -⟩ := nothing.confirmed
  cases nothing.present.symm.trans present
  have unstaged : (orderedJob order state current secrets).config = none := nothing.unstaged
  have unfenced : (orderedJob order state current secrets).appliedMigrationOperationId = none := by
    simp [orderedJob, nothing.unfenced]
  have drifted : facts.digest ≠ (orderedJob order state current secrets).currentArtifact :=
    nothing.drifted
  have observed : admitObservation (orderedJob order state current secrets)
      (observation platform (orderedJob order state current secrets).runtimeKind object) =
        .ok (facts.digest, false) := by
    simp [admitObservation, (requireObservationOwned_iff platform _ _ _).mpr nothing.owned, digest,
      requireHostArtifactContinuity, ok_bind, nothing.unit, drifted]
  have read : updateConfig platform (orderedJob order state current secrets) w =
      .ok (config, some config) := by
    simp [updateConfig, unstaged, nothing.configured, nothing.utf8]
  rw [admission, if_pos (by simp [unstaged]), nothing.present]
  simp [observed, hrelease, hfacts, ok_bind, unfenced, unstaged, updateIsNoop, drifted, read,
    nothing.signingKey, planReplacement, runtimeReplacementRequired, idlePlan]

theorem snapshotted_idle {platform : Platform} {now : ℤ}
    (nothing : NothingToChange platform now order w state job facts object config) :
    ∃ w₁, Snapshotted platform job.operationId job.configSchema (job.config.map (·.schema))
      (some config) (keepArtifact facts.runtimeArtifact w) (.ok ()) w₁ := by
  obtain ⟨current, secrets, hcurrent, hsecrets, hdata, rfl⟩ := updateJob_ok nothing.built
  have kept := (keepArtifact_kept facts.runtimeArtifact w).snapshots
  have unstaged : (orderedJob order state current secrets).config = none := nothing.unstaged
  rw [unstaged]
  rcases held : w.configSnapshots order.operationId with ⟨bytes, record⟩
  cases record with
  | none => exact ⟨_, .saved config rfl (by rw [kept]; exact congrArg (·.record) held)⟩
  | some record =>
    obtain ⟨obsolete, owner, resumed⟩ := nothing.snapshot record (by rw [held]; rfl)
    rw [held] at resumed
    cases bytes with
    | none => cases resumed
    | some bytes =>
      simp only [resumedSnapshotMatches, Option.any_some, Bool.and_eq_true, decide_eq_true_eq]
        at resumed
      exact ⟨_, .resumed record bytes (by rw [kept]; exact held) obsolete owner resumed.1.1
        ⟨resumed.1.2, resumed.2⟩⟩

/-- The attempt stages nothing, and its commit finds the revision stale. -/
theorem runUpdate_idle (nothing : NothingToChange e.platform e.now order w state job facts object
      config) (reads : OnlyChangesFail e) (loaded : w.state = some state)
    (stale : state.config.revision ≠ order.expectedRevision)
    (foreign : ¬state.producedBy order.operationId) :
    ∃ w₁, w₁ = { keepArtifact facts.runtimeArtifact w with configSnapshots := w₁.configSnapshots } ∧
      runUpdate job e ⟨w, freshSteps job⟩ =
        (.error (revisionMismatch order.expectedRevision state),
          ⟨w₁, { freshSteps job with snapshottedConfig := true }⟩) := by
  obtain ⟨w₁, snapshotted⟩ := snapshotted_idle nothing
  have kept := keepArtifact_kept facts.runtimeArtifact w
  have unfaulted : AdmissionUnfaulted e :=
    ⟨reads _ rfl, reads _ rfl, reads _ rfl, reads _ rfl, reads _ rfl, reads _ rfl⟩
  have world := snapshotted.world
  refine ⟨w₁, world, ?_⟩
  have saved : saveCurrentConfig job (idlePlan e.platform job facts object config) e
      ⟨keepArtifact facts.runtimeArtifact w, freshSteps job⟩ =
        (.ok (), ⟨w₁, { freshSteps job with snapshottedConfig := true }⟩) := by
    unfold saveCurrentConfig
    rw [run_bind_ok run_get, run_onlyIf_true _ (by rw [kept.config, nothing.configured]; rfl),
      run_bind_ok (by rw [run_onWorld, idlePlan, snapshotConfig_unfaulted (reads _ rfl)
        (reads _ rfl) (reads _ rfl) snapshotted])]
    rfl
  have confirmed : Confirmed e.platform job.runtimeKind facts.digest job.port job.issuer w₁ := by
    obtain ⟨confirmedObject, config', present, configured, rest⟩ := nothing.confirmed
    rw [world]
    exact ⟨confirmedObject, config', kept.runtime.trans present, kept.config.trans configured, rest⟩
  have refused : ∀ commit : UpdateCommit, commit.operationId = order.operationId → ∀ wasLive,
      storeState .commitState (fun state => applyUpdateHealthyFromLive state order.expectedRevision
        commit wasLive) e w₁ = (.error (revisionMismatch order.expectedRevision state), w₁) := by
    intro commit own wasLive
    have found : w₁.state = some state := by
      rw [world]
      exact kept.state.trans loaded
    unfold storeState
    rw [perform_none _ _ _ (reads _ rfl), run_bind_ok run_get]
    simp only [found]
    rw [run_bind_error]
    rw [run_ofExcept, applyUpdateHealthyFromLive, own, if_neg foreign, if_pos stale]
    rfl
  have unstaged : job.config = none ∧ job.migrationJws = none ∧
      job.operationId = order.operationId ∧ job.expectedRevision = order.expectedRevision := by
    obtain ⟨current, secrets, -, -, -, rfl⟩ := updateJob_ok nothing.built
    exact ⟨nothing.unstaged, nothing.unmigrated, rfl, rfl⟩
  obtain ⟨unstaged, unmigrated, own, expected⟩ := unstaged
  have admitted : runUpdate job e ⟨w, freshSteps job⟩ =
      carryOut job (idlePlan e.platform job facts object config) e
        ⟨keepArtifact facts.runtimeArtifact w, freshSteps job⟩ :=
    runUpdate_unfaulted unfaulted (admission_idle nothing)
  have staged : stageConfig job (idlePlan e.platform job facts object config) e
      ⟨keepArtifact facts.runtimeArtifact w, freshSteps job⟩ =
        (.ok (), ⟨w₁, { freshSteps job with snapshottedConfig := true }⟩) := by
    unfold stageConfig
    rw [run_bind_ok saved, writeStagedConfig, unstaged]
    rfl
  have committed : confirmAndCommit job (idlePlan e.platform job facts object config) e
      ⟨w₁, { freshSteps job with snapshottedConfig := true }⟩ =
        (.error (revisionMismatch order.expectedRevision state),
          ⟨w₁, { freshSteps job with snapshottedConfig := true }⟩) := by
    unfold confirmAndCommit
    rw [run_bind_ok (by rw [run_onWorld, idlePlan, confirmRuntime_unfaulted (reads _ rfl)
      (reads _ rfl) confirmed]), run_bind_ok run_get, run_bind_error]
    rw [run_onWorld, expected, refused (updateCommit job _ _) own]
  rw [admitted]
  unfold carryOut
  rw [run_bind_ok (run_note _)]
  change (stageConfig job _ >>= _) e ⟨keepArtifact facts.runtimeArtifact w, freshSteps job⟩ = _
  rw [run_bind_ok staged, dispatchMigration, unmigrated, run_bind_ok (run_pure _)]
  simp only
  rw [activateRuntime, idlePlan, run_bind_ok (run_pure _)]
  exact run_bind_error committed

theorem answerUpdate_idle (nothing : NothingToChange e.platform e.now order w state job facts object
      config) (reads : OnlyChangesFail e) (loaded : w.state = some state)
    (stale : state.config.revision ≠ order.expectedRevision)
    (foreign : ¬state.producedBy order.operationId) :
    ∃ w', answerUpdate order e w = (.error (revisionMismatch order.expectedRevision state), w') ∧
      Untouched w w' := by
  obtain ⟨w₁, world, ran⟩ := runUpdate_idle nothing reads loaded stale foreign
  have kept := keepArtifact_kept facts.runtimeArtifact w
  have unfenced : job.appliedMigrationOperationId = none := by
    obtain ⟨current, secrets, -, -, -, rfl⟩ := updateJob_ok nothing.built
    simp [orderedJob, nothing.unfenced]
  have executed : executeUpdate job e w =
      (.error (revisionMismatch order.expectedRevision state), w₁) := by
    unfold executeUpdate
    rw [run_bind_ok (by rw [run_require, if_pos (by simp [unfenced])])]
    change concludeUpdate job (runUpdate job e ⟨w, freshSteps job⟩).2.performed
      (runUpdate job e ⟨w, freshSteps job⟩).1 e (runUpdate job e ⟨w, freshSteps job⟩).2.world = _
    rw [ran]
    simp only [concludeUpdate, concludeFailure, freshSteps, unfenced]
    rfl
  refine ⟨w₁, ?_, ?_⟩
  · unfold answerUpdate
    rw [run_bind_ok (loadState_unfaulted (reads _ rfl) loaded), run_bind_ok run_environment,
      run_bind_ok run_get, run_bind_ok (by rw [nothing.precondition, run_ofExcept_ok]),
      run_bind_ok (by rw [nothing.built, run_ofExcept_ok]), run_bind_error executed]
  · rw [world]
    exact ⟨kept.runtime, kept.config, kept.secrets, kept.state, kept.accepted, kept.history⟩

end inTime

/-- A stale order of a foreign operation is refused before its first change, except for an
update that has something to change or nothing to do. -/
theorem stale_order_refused_iff (sha256 : Document → Digest) (platform : Platform) (now : ℤ)
    (deployment : Deployment) (order : HostOrder)
    (stale : deployment.state.config.revision ≠ order.expectedRevision)
    (foreign : ¬deployment.state.producedBy order.operationId) :
    RefusedStale sha256 platform now deployment order ↔
      ∀ update, order = .update update → ∃ job facts object config,
        NothingToChange platform now update deployment.world deployment.state job facts object
          config := by
  have loaded := deployment.loaded
  cases order with
  | applyConfig order =>
    constructor
    · exact fun _ => nofun
    · exact fun _ e fault => ⟨_, answerApplyConfig_stale fault loaded stale foreign⟩
  | rollback order =>
    constructor
    · exact fun _ => nofun
    · exact fun _ e fault => ⟨_, answerRollback_stale fault loaded stale foreign⟩
  | uninstall order =>
    obtain ⟨times, documented⟩ := deployment.documented
    constructor
    · exact fun _ => nofun
    · exact fun _ e fault => ⟨_, answerUninstall_stale fault documented stale⟩
  | recover order =>
    constructor
    · exact fun _ => nofun
    · exact fun _ e fault => ⟨_, answerBackupRecover_stale fault rfl stale foreign⟩
  | update order =>
    constructor
    · rintro refused _ ⟨⟩
      obtain ⟨d, w', answered, -⟩ :=
        refused (withheld platform now) rfl rfl withheld_onlyChangesFail
      exact answerUpdate_withheld loaded ⟨d, congrArg Prod.fst answered⟩
    · rintro nothing e rfl rfl reads
      obtain ⟨job, facts, object, config, nothing⟩ := nothing order rfl
      obtain ⟨w', answered, untouched⟩ := answerUpdate_idle nothing reads loaded stale foreign
      exact ⟨_, w', answered, untouched⟩

/-! ## A deployment whose container was replaced by hand -/

def emptyRestore : Restore where
  runtime := none
  snapshot := none
  extracted := none
  unpacking := false
  databasePlan := none
  databases _ := none
  pathsSwitching := false
  completed := none
  data := ⟨none, none, false, none⟩
  secrets := ⟨none, none, false, none⟩
  config := ⟨none, none, false, none⟩

/-- A healthy deployment that records a given artifact as its current one. -/
def recording (artifact : Digest) : Deployment where
  state := (deployedState .podman).withCurrent artifact
  world := { deployed .podman with state := some ((deployedState .podman).withCurrent artifact) }
  host := ⟨some ⟨(deployedState .podman).withCurrent artifact, []⟩, none, none, fun _ => none⟩
  restore := emptyRestore
  loaded := rfl
  documented := ⟨[], rfl⟩

def staleOrder (requested : Option ReleaseVersion) (config : Option StagedConfig) : UpdateOrder :=
  { updateOrder config with expectedRevision := 3, requestedVersion := requested }

theorem drifted_update_refused : RefusedStale (fun _ => 0) twoReleases 0 (recording 9)
    (.update (staleOrder (some firstVersion) none)) :=
  (stale_order_refused_iff (fun _ => 0) twoReleases 0 (recording 9)
    (.update (staleOrder (some firstVersion) none)) (by decide) (by decide)).mpr (by
      rintro _ ⟨⟩
      exact ⟨_, _, _, _, {
        precondition := rfl
        built := rfl
        unfenced := rfl
        unstaged := rfl
        unmigrated := rfl
        present := rfl
        owned := ⟨rfl, by decide, fun _ => by decide⟩
        unit := by decide
        verified := rfl
        drifted := by decide
        configured := rfl
        utf8 := by decide
        signingKey := by decide
        snapshot := nofun
        confirmed := ⟨_, _, rfl, rfl, rfl, by decide, rfl⟩ }⟩)

/-- A stale update that stages a config replaces the runtime, and one that asks for what is
already there is answered as a no-op. -/
theorem stale_update_replaces_runtime :
    (recording 10).state.config.revision ≠ 3 ∧ ¬(recording 10).state.producedBy 7 ∧
      ¬RefusedStale (fun _ => 0) twoReleases 0 (recording 10)
        (.update (staleOrder none (some stagedConfig))) ∧
      (answerUpdate (staleOrder (some firstVersion) none) (undisturbed twoReleases)
        (recording 10).world).1 = .ok (.stateMutateNoop 3) := by
  refine ⟨by decide, by decide, ?_, by decide⟩
  intro refused
  obtain ⟨d, w', answered, untouched⟩ := refused (undisturbed twoReleases) rfl rfl fun _ _ => rfl
  have replaced : (answerUpdate (staleOrder none (some stagedConfig)) (undisturbed twoReleases)
      (recording 10).world).2.history ≠ [] := by decide
  rw [answered] at replaced
  exact replaced untouched.history

end NazoAuthCtl.StaleRevision
