import NazoAuthCtl.UpdateCompletion

/-!
# Replaying an update whose commit is durable

An attempt of an update can be lost after its state commit and before the
journal's terminal line. The order is then answered again, in a world that is
already the updated one. This module says what the committed world looks like
and when the second answer is the first one again.
-/

set_option autoImplicit false
set_option linter.all false

namespace NazoAuthCtl.UpdateReplay

open FaultProgram TargetState TargetWorld UpdateExec LifecycleDispatch UpdateAdmission UpdateSteps
  UpdateCompletion
open Program

/-- A conclusion answers an activation or a no-op only by passing it on. -/
theorem concludeUpdate_passes (job : UpdateJob) (performed : PerformedSteps)
    (o : Outcome Failure UpdateExecution) (e : Attempt) (w : World) :
    Ensures (concludeUpdate job performed o) e (fun o' w' =>
      (∀ facts, o' = .ok (.activated facts) → o = .ok (.activated facts) ∧ w' = w) ∧
      ∀ revision, o' = .ok (.noop revision) → o = .ok (.noop revision) ∧ w' = w) w := by
  cases o with
  | crashed => simp [concludeUpdate]
  | ok execution =>
    cases execution with
    | noop revision => simp [concludeUpdate]
    | activated facts => simp [concludeUpdate]
    | recoveryRequired result detail => simp [concludeUpdate]
    | migrationFailed result =>
      apply (concludeFailedMigration_ensures job performed result e w).mono
      intro o' w' concluded
      cases concluded with
      | fenced _ _ _ _ answer => rcases answer with rfl | ⟨detail, rfl⟩ <;> simp
      | undone _ _ answer => rcases answer with rfl | rfl | ⟨detail, rfl⟩ <;> simp
  | error failure =>
    apply (concludeFailure_ensures job performed failure e w).mono
    intro o' w' concluded
    cases concluded with
    | fenced _ _ _ _ answer =>
      rcases answer with rfl | ⟨detail, rfl⟩ | ⟨result, detail, -, rfl⟩ <;> simp
    | unknown _ _ _ _ _ answer =>
      rcases answer with rfl | ⟨detail, rfl⟩ <;> simp
    | undone _ _ _ answer => rcases answer with rfl | ⟨detail, rfl⟩ <;> simp

/-- A world in which an update of this order is committed at a revision. -/
structure UpdateInPlace (platform : Platform) (order : UpdateOrder) (revision : ℕ) (w : World)
    (state : DeploymentState) (job : UpdateJob) (object : RuntimeObject) : Prop where
  loaded : w.state = some state
  built : updateJob order state = .ok job
  produced : state.producedBy order.operationId
  unfenced : state.appliedMigration = none
  recorded : state.config.revision = revision
  unchanged : order.config = none → revision = order.expectedRevision
  runtime : w.runtime = some object
  owned : Owned job.runtimeKind job.deploymentId object
  serves : (observation platform job.runtimeKind object).digest = some job.currentArtifact

theorem answerUpdate_commits (order : UpdateOrder) (e : Attempt) (w : World)
    {state : DeploymentState} (loaded : w.state = some state)
    (fresh : ¬state.producedBy order.operationId) :
    Ensures (answerUpdate order) e (fun o w' => ∀ revision result,
      o = .ok (.stateMutateApplied revision result) →
        ∃ state' job' object, UpdateInPlace e.platform order revision w' state' job' object) w := by
  apply answerUpdate_ensures
  · intro o unfinished revision result h
    exact absurd h (unfinished _)
  intro state₀ job o run hstate _ built _ _ ran
  rw [loaded] at hstate
  cases hstate
  apply (concludeUpdate_passes job run.performed o e run.world).mono
  rintro o' w' ⟨activated, -⟩
  cases o' with
  | error x => simp
  | crashed => simp
  | ok execution =>
    cases execution with
    | noop revision => simp [completionOfUpdate]
    | migrationFailed result => simp [completionOfUpdate]
    | recoveryRequired result detail => simp [completionOfUpdate]
    | activated facts =>
      obtain ⟨rfl, rfl⟩ := activated facts rfl
      rintro revision result ⟨⟩
      cases ran with
      | refused _ unfinished => exact absurd rfl (unfinished _)
      | carried plan admitted _ _ carriedOut =>
        obtain ⟨object, live, admitted⟩ := admission_some admitted
        cases carriedOut with
        | unstaged _ unfinished => exact absurd rfl (unfinished _)
        | undispatched _ unfinished => exact absurd rfl (unfinished _)
        | unactivated _ unfinished => exact absurd rfl (unfinished _)
        | uncommitted _ unfinished => exact absurd rfl (unfinished _)
        | committed run₁ run₂ run₃ before after staged dispatched activating confirmed hbefore
            happlied =>
          have here : run₁.world.state = some state := by
            rw [staged.world]
            exact (keepArtifact_kept _ _).state.trans loaded
          have document : run₂.world.state = some before := by
            rw [activating.world] at hbefore
            exact hbefore
          obtain ⟨fence, rfl⟩ : ∃ fence, before = { state with appliedMigration := fence } := by
            rcases dispatched.state with h | ⟨state₁, h, -, h'⟩
            · rw [document, here] at h
              cases h
              exact ⟨_, rfl⟩
            · rw [here] at h
              cases h
              rw [document] at h'
              cases h'
              exact ⟨_, rfl⟩
          obtain ⟨current, secrets, hcurrent, hsecrets, hdata, rfl⟩ := updateJob_ok built
          rcases applyUpdateHealthyFromLive_ok happlied with ⟨again, -⟩ | ⟨-, committed⟩
          · exact absurd again fresh
          have located : run₂.world.runtime = some object := by
            rw [dispatched.world, staged.world]
            exact (keepArtifact_kept _ _).runtime.trans admitted.present
          obtain ⟨object', present, owned⟩ := activating.owned located admitted.observed
            admitted.replacement admitted.owned
          obtain ⟨confirmedObject, config, hobject, -, -, digest, -⟩ := confirmed
          rw [present] at hobject
          cases hobject
          refine ⟨after, _, object', {
            loaded := rfl
            built := updateJob_built committed.current
              (by rw [DeploymentState.directory, committed.resources]; exact hsecrets)
              (by rw [DeploymentState.directory, committed.resources]; exact hdata)
            produced := committed.produced
            unfenced := committed.unfenced
            recorded := rfl
            unchanged := fun unstaged => ?_
            runtime := present
            owned := ?_
            serves := ?_ }⟩
          · rw [committed.config]
            simp only [updateCommit, orderedJob, unstaged, Option.map_none]
            exact committed.revision
          · simp only [orderedJob, committed.deploymentId, committed.runtime]
            exact owned
          · simp only [orderedJob, committed.runtime]
            exact digest

/-- Verification selects the artifact the document records as current. -/
def SelectsCurrent (platform : Platform) (order : UpdateOrder) (w : World) : Prop :=
  ∃ state facts, w.state = some state ∧
    (verifiedRelease platform order.requestedVersion
        (versionFloorForUpdate order.requestedVersion state.currentRelease) >>=
      artifactFacts state.runtime.kind (state.directory "app-binary")) = .ok facts ∧
    state.artifact.current = some facts.digest

/-- The order is answered with the committed revision, the runtime is left alone and
the document stays as it is. -/
def ReportsCommitted (order : UpdateOrder) (revision : ℕ) (e : Attempt) (w : World) : Prop :=
  ((answerUpdate order e w).1 = .ok (.stateMutateNoop revision) ∨
    ∃ result, (answerUpdate order e w).1 = .ok (.stateMutateApplied revision result)) ∧
  (answerUpdate order e w).2.history = w.history ∧ (answerUpdate order e w).2.state = w.state

variable {order : UpdateOrder} {e : Attempt} {w : World} {state : DeploymentState}
  {job : UpdateJob} {object : RuntimeObject} {revision : ℕ} {platform : Platform}

/-- A committed update that is answered again without touching the runtime had
nothing to stage and selected what is in place. -/
theorem reported_only_if (inPlace : UpdateInPlace platform order revision w state job object) :
    Ensures (answerUpdate order) e (fun o w' =>
      (o = .ok (.stateMutateNoop revision) ∨
        ∃ result, o = .ok (.stateMutateApplied revision result)) →
      w'.history = w.history →
      order.config = none ∧
        validateBackupPrecondition order.backupPrecondition w.backup e.now = .ok () ∧
        SelectsCurrent e.platform order w) w := by
  apply answerUpdate_ensures
  · rintro o unfinished (rfl | ⟨result, rfl⟩) <;> exact absurd rfl (unfinished _)
  intro state' job' o run loaded precondition built _ _ ran
  rw [inPlace.loaded] at loaded
  cases loaded
  rw [inPlace.built] at built
  cases built
  obtain ⟨current, secrets, hcurrent, hsecrets, hdata, rfl⟩ := updateJob_ok inPlace.built
  apply (concludeUpdate_passes _ run.performed o e run.world).mono
  rintro o' w' ⟨activated, noop⟩
  cases o' with
  | error x => simp
  | crashed => simp
  | ok execution =>
    cases execution with
    | migrationFailed result => simp [completionOfUpdate]
    | recoveryRequired result detail => simp [completionOfUpdate]
    | noop answered =>
      obtain ⟨rfl, rfl⟩ := noop answered rfl
      intro _ _
      cases ran with
      | refused _ unfinished => exact absurd rfl (unfinished _)
      | noop w₁ kept admitted =>
        obtain ⟨-, unstaged, facts, verified, digest⟩ := admission_none admitted
        exact ⟨unstaged, precondition, state, facts, inPlace.loaded, verified,
          by rw [digest]; exact hcurrent⟩
      | carried plan admitted _ _ carriedOut =>
        cases carriedOut with
        | unstaged _ unfinished => exact absurd rfl (unfinished _)
        | undispatched _ unfinished => exact absurd rfl (unfinished _)
        | unactivated _ unfinished => exact absurd rfl (unfinished _)
        | uncommitted _ unfinished => exact absurd rfl (unfinished _)
    | activated facts =>
      obtain ⟨rfl, rfl⟩ := activated facts rfl
      intro _ untouched
      cases ran with
      | refused _ unfinished => exact absurd rfl (unfinished _)
      | carried plan admitted _ _ carriedOut =>
        obtain ⟨object', live, admitted⟩ := admission_some admitted
        cases carriedOut with
        | unstaged _ unfinished => exact absurd rfl (unfinished _)
        | undispatched _ unfinished => exact absurd rfl (unfinished _)
        | unactivated _ unfinished => exact absurd rfl (unfinished _)
        | uncommitted _ unfinished => exact absurd rfl (unfinished _)
        | committed run₁ run₂ run₃ before after staged dispatched activating =>
          have history : run₂.world.history = w.history := by
            rw [dispatched.world, staged.world]
            exact (keepArtifact_kept _ _).history
          have unreplaced : plan.replacement = none := by
            by_contra replaced
            exact activating.started (Option.isSome_iff_ne_none.mpr replaced)
              (untouched.trans history.symm)
          have same : object' = object := by
            have := admitted.present.symm.trans inPlace.runtime
            exact Option.some.inj this
          have live_eq : live = current := by
            have := admitted.digest
            rw [admitted.observed, same] at this
            exact Option.some.inj (this.symm.trans inPlace.serves)
          rcases planReplacement_ok admitted.replacement with ⟨unneeded, -, -⟩ | ⟨-, h, -⟩
          · simp only [runtimeReplacementRequired, Bool.or_eq_false_iff, Option.isSome_eq_false_iff,
              Option.isNone_iff_eq_none, ne_eq, decide_not, Bool.not_eq_false', decide_eq_true_eq]
              at unneeded
            exact ⟨unneeded.1, precondition, state, plan.verified, inPlace.loaded,
              admitted.verified, by rw [← unneeded.2, live_eq]; exact hcurrent⟩
          · rw [unreplaced] at h
            cases h

/-- The converse of `admission_none`, for an owned object that runs what is recorded. -/
theorem admission_noop {platform : Platform} {job : UpdateJob} {w : World}
    {object : RuntimeObject} {facts : VerifiedArtifactFacts}
    (unfenced : job.appliedMigrationOperationId = none) (unstaged : job.config = none)
    (present : w.runtime = some object) (owned : Owned job.runtimeKind job.deploymentId object)
    (serves : (observation platform job.runtimeKind object).digest = some job.currentArtifact)
    (verified : (verifiedRelease platform job.requestedVersion
      (versionFloorForUpdate job.requestedVersion job.currentVersion) >>=
        artifactFacts job.runtimeKind job.runtimeRoot) = .ok facts)
    (selected : facts.digest = job.currentArtifact) :
    admission platform job w = .ok none := by
  obtain ⟨release, hrelease, hfacts⟩ := bind_eq_ok verified
  have observed : admitObservation job (observation platform job.runtimeKind object) =
      .ok (job.currentArtifact, true) := by
    simp [admitObservation, (requireObservationOwned_iff platform _ _ _).mpr owned, serves,
      requireHostArtifactContinuity, ok_bind]
  rw [admission, if_pos (by simp [unstaged]), present]
  simp [observed, hrelease, hfacts, ok_bind, unfenced, unstaged, updateIsNoop, selected]

/-- A clean attempt that has nothing to do answers so and touches only kept artifacts. -/
theorem answerUpdate_noop {order : UpdateOrder} {e : Attempt} {w : World}
    {state : DeploymentState} {job : UpdateJob} (clean : e.clean) (loaded : w.state = some state)
    (precondition : validateBackupPrecondition order.backupPrecondition w.backup e.now = .ok ())
    (built : updateJob order state = .ok job) (unfenced : job.appliedMigrationOperationId = none)
    (noop : admission e.platform job w = .ok none) :
    ∃ w', KeptArtifacts w w' ∧
      answerUpdate order e w = (.ok (.stateMutateNoop job.expectedRevision), w') := by
  exact ⟨(admitUpdate job e w).2, (admitUpdate_ensures job e w).1,
    answerUpdate_run clean loaded precondition built (by simp [unfenced])
      (runUpdate_noop clean noop) (by simp)⟩

theorem reported_if (inPlace : UpdateInPlace platform order revision w state job object)
    (clean : e.clean) (unstaged : order.config = none)
    (precondition : validateBackupPrecondition order.backupPrecondition w.backup e.now = .ok ())
    (selects : SelectsCurrent e.platform order w) : ReportsCommitted order revision e w := by
  obtain ⟨state', facts, loaded, verified, selected⟩ := selects
  rw [inPlace.loaded] at loaded
  cases loaded
  obtain ⟨current, secrets, hcurrent, hsecrets, hdata, rfl⟩ := updateJob_ok inPlace.built
  have recorded : facts.digest = current :=
    Option.some.inj (selected.symm.trans hcurrent)
  have unfenced : (orderedJob order state current secrets).appliedMigrationOperationId = none := by
    simp [orderedJob, inPlace.unfenced]
  have noop : admission e.platform (orderedJob order state current secrets) w = .ok none :=
    admission_noop unfenced unstaged inPlace.runtime inPlace.owned inPlace.serves verified recorded
  obtain ⟨w', kept, answered⟩ :=
    answerUpdate_noop clean inPlace.loaded precondition inPlace.built unfenced noop
  rw [ReportsCommitted, answered]
  exact ⟨.inl (by rw [inPlace.unchanged unstaged]; rfl), kept.history, kept.state⟩

/-- An update whose commit is durable is answered again as that commit, with the
runtime and the document left alone, exactly when it staged no config, its backup
evidence still passes and verification still selects the recorded artifact. -/
theorem committed_update_replayed_iff (order : UpdateOrder) (e₀ e : Attempt) (w₀ : World)
    (state₀ : DeploymentState) (revision : ℕ) (result : Option ControlResult)
    (loaded : w₀.state = some state₀) (fresh : ¬state₀.producedBy order.operationId)
    (committed : (answerUpdate order e₀ w₀).1 = .ok (.stateMutateApplied revision result))
    (clean : e.clean) :
    ReportsCommitted order revision e (answerUpdate order e₀ w₀).2 ↔
      order.config = none ∧
        validateBackupPrecondition order.backupPrecondition (answerUpdate order e₀ w₀).2.backup
          e.now = .ok () ∧
        SelectsCurrent e.platform order (answerUpdate order e₀ w₀).2 := by
  obtain ⟨state, job, object, inPlace⟩ :=
    answerUpdate_commits order e₀ w₀ loaded fresh revision result committed
  constructor
  · rintro ⟨answer, history, -⟩
    exact reported_only_if inPlace answer history
  · rintro ⟨unstaged, precondition, selects⟩
    exact reported_if inPlace clean unstaged precondition selects

/-! ## A deployment to run orders on -/

def release (version : ReleaseVersion) (digest : Digest) : VerifiedRelease where
  version
  binarySha256 := digest
  ociRepository := "ghcr.io/nazozero/nazoauth"
  ociDigest := some digest

def firstVersion : ReleaseVersion := ⟨"1.0.0", by decide⟩
def secondVersion : ReleaseVersion := ⟨"1.1.0", by decide⟩

/-- A feed whose latest Release is the second one, on an engine that inspects as
Podman does. -/
def twoReleases : Platform where
  sha256 bytes := bytes.foldl (fun digest byte => 257 * digest + byte.toNat + 1) 0
  isUtf8 bytes := bytes.all (· < 128)
  signingKeyConfig config := some ⟨if config = [0]
    then ["var", "secrets", "signing-key-encryption-key"]
    else ["run", "secrets", "signing-key-encryption-key"], none⟩
  validSigningKey key := key.length = 32
  parseUrl _ := some ⟨"postgres", "nazoauth", "/nazoauth"⟩
  published
    | none => some (release secondVersion 11)
    | some version =>
      if version = firstVersion then some (release firstVersion 10)
      else if version = secondVersion then some (release secondVersion 11)
      else none
  precedence a b := compare a.val b.val
  reportsStoppedPorts := true
  serves object _ _ _ := object.running

def undisturbed (platform : Platform) : Attempt where
  platform
  faults _ := .none
  oneShot := ⟨none, .noFrame⟩
  now := 0

def configToken : ConfigSchema := ⟨"v1", by decide⟩
def nextConfigToken : ConfigSchema := ⟨"v2", by decide⟩

def deployedState (kind : RuntimeBackendKind) : DeploymentState where
  deploymentId := "main"
  issuer := "https://id.example"
  runtime := ⟨kind, "nazoauth", 8080⟩
  artifact := ⟨some 10, none⟩
  config := ⟨["etc", "nazoauth", "config.yaml"], configToken, 4⟩
  resources := [⟨"app-data", "directory", ["var", "data"], .managed, .deployment⟩,
    ⟨"app-secrets", "directory", ["var", "secrets"], .managed, .deployment⟩,
    ⟨"app-binary", "directory", ["var", "binary"], .managed, .deployment⟩]
  healthy := true
  appliedMigration := none
  activeHostOperation := some 1
  currentRelease := some firstVersion
  previousRelease := none
  previousConfigSnapshot := none

def deployedArtifact (kind : RuntimeBackendKind) : ArtifactReference :=
  if kind.isContainer then .oci "ghcr.io/nazozero/nazoauth" 10
  else .hostBinary ["var", "binary", "nazoauth"] 10

def deployedObject (kind : RuntimeBackendKind) : RuntimeObject where
  artifact := deployedArtifact kind
  serverCommand := true
  running := true
  ports := [⟨"127.0.0.1:8080", "8080"⟩]
  networks := []
  mounts := [⟨["var", "secrets", "signing-key-encryption-key"],
    ["run", "secrets", "signing-key-encryption-key"], true⟩]
  environment := [("DEPLOYMENT_ID", "main")]
  labels := [(ownershipLabel, "main")]

/-- A healthy deployment of the first Release. -/
def deployed (kind : RuntimeBackendKind) : World where
  runtime := some (deployedObject kind)
  config := some (if kind.isContainer then [1] else [0])
  secrets := some [(["signing-key-encryption-key"], List.replicate 32 7),
    (["database-runtime-url"], [1]), (["database-lifecycle-url"], [1])]
  configSnapshots _ := ⟨none, none⟩
  state := some (deployedState kind)
  backup := .ok none
  hostArtifacts := [10]
  images := [("ghcr.io/nazozero/nazoauth", 10)]
  accepted _ := none
  history := []

def updateOrder (config : Option StagedConfig) : UpdateOrder where
  operationId := 7
  expectedRevision := 4
  requestedVersion := none
  backupPrecondition := .notRequired
  config
  migrationJws := none
  migrationRequestHash := none

def stagedConfig : StagedConfig := ⟨[2], 3, nextConfigToken⟩

/-- An update to the second Release, committed and answered again. -/
theorem committed_update_replayed :
    ReportsCommitted (updateOrder none) 4 (undisturbed twoReleases)
      (answerUpdate (updateOrder none) (undisturbed twoReleases) (deployed .podman)).2 :=
  (committed_update_replayed_iff (updateOrder none) (undisturbed twoReleases)
    (undisturbed twoReleases) (deployed .podman) (deployedState .podman) 4 none rfl (by decide)
    (by decide) fun _ => rfl).mpr
    ⟨rfl, rfl, _, _, rfl, rfl, by decide⟩

/-- With a staged config of another schema the answer of the second attempt is a
refusal: the snapshot of the first attempt no longer matches the committed schema. -/
theorem committed_config_update_not_replayed :
    (answerUpdate (updateOrder (some stagedConfig)) (undisturbed twoReleases)
        (deployed .podman)).1 = .ok (.stateMutateApplied 5 none) ∧
      ¬(deployedState .podman).producedBy (updateOrder (some stagedConfig)).operationId ∧
      (undisturbed twoReleases).clean ∧
      ¬ReportsCommitted (updateOrder (some stagedConfig)) 5 (undisturbed twoReleases)
        (answerUpdate (updateOrder (some stagedConfig)) (undisturbed twoReleases)
          (deployed .podman)).2 := by
  refine ⟨by decide, by decide, fun _ => rfl, ?_⟩
  rintro ⟨answer, -⟩
  have refused : (answerUpdate (updateOrder (some stagedConfig)) (undisturbed twoReleases)
      (answerUpdate (updateOrder (some stagedConfig)) (undisturbed twoReleases)
        (deployed .podman)).2).1 = .error ⟨.hostErrOperationInvalid,
          "resumed update config snapshot does not match its operation"⟩ := by decide
  rw [refused] at answer
  rcases answer with h | ⟨result, h⟩ <;> cases h

end NazoAuthCtl.UpdateReplay
