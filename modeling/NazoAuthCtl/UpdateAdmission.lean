import NazoAuthCtl.LifecycleDispatch

/-!
# What admission of an update establishes

Admission changes nothing but the local copies of artifacts. Its answer is a
function of the platform, the job and the world it starts in; faults can only
replace that answer by a failure or cut the attempt off.
-/

set_option autoImplicit false
set_option linter.all false

namespace NazoAuthCtl.UpdateAdmission

open FaultProgram TargetState TargetWorld UpdateExec

/-- The config the new runtime will read, and the bytes on disk when none is staged. -/
def updateConfig (platform : Platform) (job : UpdateJob) (w : World) :
    Except Failure (Bytes × Option Bytes) :=
  match job.config, w.config with
  | some staged, _ => .ok (staged.content, none)
  | none, none => .error ⟨.configInvalid, "deployment configuration is missing"⟩
  | none, some bytes =>
    if platform.isUtf8 bytes then .ok (bytes, some bytes)
    else .error ⟨.configInvalid, "deployment configuration must be UTF-8"⟩

/-- The answer of admission when none of its effects fails. -/
def admission (platform : Platform) (job : UpdateJob) (w : World) :
    Except Failure (Option UpdatePlan) :=
  if ∀ staged ∈ job.config, platform.sha256 staged.content = staged.sha256 then
    match w.runtime with
    | none => .error ⟨.objectIdentityMismatch, "no such runtime object"⟩
    | some object => do
      let observed := observation platform job.runtimeKind object
      let (live, recordedCurrentWasLive) ← admitObservation job observed
      let release ← verifiedRelease platform job.requestedVersion
        (versionFloorForUpdate job.requestedVersion job.currentVersion)
      let verified ← artifactFacts job.runtimeKind job.runtimeRoot release
      if job.appliedMigrationOperationId.isNone
          ∧ updateIsNoop live job.currentArtifact verified.digest job.config.isSome then
        .ok none
      else
        let (config, currentConfig) ← updateConfig platform job w
        requireSharedSigningKeyRoot platform job.secretsRoot w.secrets config job.runtimeKind
          observed.mounts
        let (replacement, before) ← planReplacement job observed live verified
        .ok (some {
          observation := observed, verified, recordedCurrentWasLive, currentConfig, replacement,
          before })
  else .error ⟨.configInvalid, "staged config content does not match its declared digest"⟩

/-- Only artifacts kept locally have been added. -/
structure KeptArtifacts (w w' : World) : Prop where
  rest : w' = { w with hostArtifacts := w'.hostArtifacts, images := w'.images }
  hostArtifacts : ∀ digest ∈ w.hostArtifacts, digest ∈ w'.hostArtifacts
  images : ∀ image ∈ w.images, image ∈ w'.images

theorem KeptArtifacts.refl (w : World) : KeptArtifacts w w :=
  ⟨rfl, fun _ h => h, fun _ h => h⟩

theorem KeptArtifacts.trans {w₁ w₂ w₃ : World} (h : KeptArtifacts w₁ w₂)
    (h' : KeptArtifacts w₂ w₃) : KeptArtifacts w₁ w₃ where
  rest := by rw [h'.rest, h.rest]
  hostArtifacts digest kept := h'.hostArtifacts digest (h.hostArtifacts digest kept)
  images image kept := h'.images image (h.images image kept)

theorem keepArtifact_kept (artifact : ArtifactReference) (w : World) :
    KeptArtifacts w (keepArtifact artifact w) := by
  cases artifact with
  | oci repository digest => exact ⟨rfl, fun _ h => h, fun _ h => List.mem_cons_of_mem _ h⟩
  | hostBinary path digest => exact ⟨rfl, fun _ h => List.mem_cons_of_mem _ h, fun _ h => h⟩
  | unknown => exact KeptArtifacts.refl w

namespace KeptArtifacts

variable {w w' : World}

theorem runtime (h : KeptArtifacts w w') : w'.runtime = w.runtime := by rw [h.rest]
theorem config (h : KeptArtifacts w w') : w'.config = w.config := by rw [h.rest]
theorem secrets (h : KeptArtifacts w w') : w'.secrets = w.secrets := by rw [h.rest]
theorem snapshots (h : KeptArtifacts w w') : w'.configSnapshots = w.configSnapshots := by
  rw [h.rest]
theorem state (h : KeptArtifacts w w') : w'.state = w.state := by rw [h.rest]
theorem backup (h : KeptArtifacts w w') : w'.backup = w.backup := by rw [h.rest]
theorem accepted (h : KeptArtifacts w w') : w'.accepted = w.accepted := by rw [h.rest]
theorem history (h : KeptArtifacts w w') : w'.history = w.history := by rw [h.rest]

end KeptArtifacts

theorem admission_congr {platform : Platform} {job : UpdateJob} {w w' : World}
    (runtime : w'.runtime = w.runtime) (config : job.config = none → w'.config = w.config)
    (secrets : w'.secrets = w.secrets) :
    admission platform job w' = admission platform job w := by
  cases hc : job.config with
  | none => simp only [admission, updateConfig, runtime, secrets, config hc]
  | some staged => simp only [admission, updateConfig, runtime, secrets, hc]

theorem updateConfig_congr {platform : Platform} {job : UpdateJob} {w w' : World}
    (config : w'.config = w.config) :
    updateConfig platform job w' = updateConfig platform job w := by
  simp only [updateConfig, config]

open Program

theorem verifyPinnedArtifactFacts_ensures (kind : RuntimeBackendKind)
    (requested floor : Option ReleaseVersion) (runtimeRoot : Option Path)
    (e : Attempt) (w : World) :
    Ensures (verifyPinnedArtifactFacts kind requested floor runtimeRoot) e
      (fun o w' => KeptArtifacts w w' ∧ ∀ facts, o = .ok facts →
        (verifiedRelease e.platform requested floor >>= artifactFacts kind runtimeRoot) = .ok facts
          ∧ w' = keepArtifact facts.runtimeArtifact w) w := by
  unfold verifyPinnedArtifactFacts
  simp only [ensures_bind, ensures_perform, after_ok, after_error, after_crashed,
    ensures_environment, ensures_ofExcept, ensures_modify, ensures_pure]
  refine ⟨fun _ => ⟨fun release hr => ⟨fun facts hf => ⟨fun _ => ⟨?_, ?_⟩, ?_, ?_⟩, ?_⟩, ?_⟩, ?_, ?_⟩
  all_goals try (simp [KeptArtifacts.refl w]; done)
  · exact keepArtifact_kept _ _
  · rintro _ ⟨⟩
    exact ⟨by rw [hr]; exact hf, rfl⟩

theorem readUpdateConfig_ensures (job : UpdateJob) (e : Attempt) (w : World) :
    Ensures (readUpdateConfig job) e (fun o w' => w' = w ∧ ∀ read, o = .ok read →
      updateConfig e.platform job w = .ok read) w := by
  unfold readUpdateConfig updateConfig
  cases hc : job.config with
  | some staged => simp
  | none =>
    simp only [ensures_bind, ensures_perform, after_ok, ensures_environment, ensures_get]
    cases w.config with
    | none => simp
    | some bytes => by_cases hu : e.platform.isUtf8 bytes <;> simp [ensures_bind, hu]

/-- Whatever fails, admission only adds artifacts, and an answer it gives is the
one of the world it started in. -/
theorem admitUpdate_ensures (job : UpdateJob) (e : Attempt) (w : World) :
    Ensures (admitUpdate job) e (fun o w' => KeptArtifacts w w' ∧
      ∀ r, o = .ok r → admission e.platform job w = .ok r ∧
        ∀ plan ∈ r, w' = keepArtifact plan.verified.runtimeArtifact w) w := by
  have same := KeptArtifacts.refl w
  unfold admitUpdate privilegeGate inspect
  simp only [ensures_bind, ensures_perform, ensures_pure, after_ok, after_error, after_crashed,
    ensures_environment, ensures_require, ensures_get]
  refine ⟨fun _ => ⟨fun declared => ⟨fun _ => ?_, ?_, ?_⟩, ?_⟩, ?_, ?_⟩
  all_goals try (simp [same]; done)
  cases hobject : w.runtime with
  | none => simp [same]
  | some object =>
    simp only [ensures_pure, after_ok, after_error, ensures_bind, ensures_ofExcept]
    refine ⟨fun live hlive => ?_, by simp [same]⟩
    apply (verifyPinnedArtifactFacts_ensures _ _ _ _ e w).mono
    rintro (verified | x | _) w₁ ⟨kept, hverified⟩
    case error => exact ⟨kept, by simp⟩
    case crashed => exact ⟨kept, by simp⟩
    obtain ⟨hverify, hw₁⟩ := hverified verified rfl
    obtain ⟨release, hrelease, hfacts⟩ := bind_eq_ok hverify
    simp only [after_ok]
    by_cases hnoop : job.appliedMigrationOperationId.isNone = true ∧
        updateIsNoop live.1 job.currentArtifact verified.digest job.config.isSome = true
    · rw [if_pos hnoop, ensures_pure]
      refine ⟨kept, ?_⟩
      rintro _ ⟨⟩
      refine ⟨?_, by simp⟩
      rw [admission, if_pos declared, hobject]
      simp only [hlive, hrelease, hfacts, ok_bind, if_pos hnoop]
    · rw [if_neg hnoop, ensures_bind]
      apply (readUpdateConfig_ensures job e w₁).mono
      rintro (read | x | _) w₂ ⟨rfl, hread⟩
      case error => exact ⟨kept, by simp⟩
      case crashed => exact ⟨kept, by simp⟩
      simp only [after_ok, after_error, after_crashed, ensures_bind, ensures_perform, ensures_get,
        ensures_ofExcept, ensures_pure, kept.secrets]
      refine ⟨fun _ => ⟨fun _ hkey => ⟨fun planned hplanned => ⟨kept, ?_⟩, ?_⟩, ?_⟩, ?_, ?_⟩
      all_goals try (simp [kept]; done)
      rintro _ ⟨⟩
      refine ⟨?_, by simpa using hw₁⟩
      have hread := hread read rfl
      rw [updateConfig_congr kept.config] at hread
      rw [admission, if_pos declared, hobject]
      simp only [hlive, hrelease, hfacts, ok_bind, if_neg hnoop, hread, hkey, hplanned]

/-- An object this deployment owns, as inspection shows it. -/
structure Owned (kind : RuntimeBackendKind) (deploymentId : DeploymentId)
    (object : RuntimeObject) : Prop where
  serverCommand : object.serverCommand = true
  environment :
    (safeEnvironment object.environment).lookup "DEPLOYMENT_ID" = some deploymentId
  label : kind.isContainer → object.labels.lookup ownershipLabel = some deploymentId

theorem requireObservationOwned_iff (platform : Platform) (kind : RuntimeBackendKind)
    (deploymentId : DeploymentId) (object : RuntimeObject) :
    requireObservationOwned (observation platform kind object) kind deploymentId = .ok () ↔
      Owned kind deploymentId object := by
  unfold requireObservationOwned
  constructor
  · intro h
    split at h
    · cases h
    split at h
    · cases h
    split at h
    · cases h
    · rename_i command environment label
      refine ⟨by simpa [observation] using command, not_not.mp environment, fun container => ?_⟩
      by_contra other
      exact label ⟨container, by simpa [observation, container] using other⟩
  · rintro ⟨command, environment, label⟩
    rw [if_neg (by simp [observation, command]), if_neg (by simp [observation, environment]),
      if_neg]
    rintro ⟨container, other⟩
    exact other (by simpa [observation, container] using label container)

theorem planReplacement_ok {job : UpdateJob} {observation : RuntimeObservation} {live : Digest}
    {verified : VerifiedArtifactFacts} {replacement before : Option RuntimeReplacement}
    (h : planReplacement job observation live verified = .ok (replacement, before)) :
    (runtimeReplacementRequired live verified.digest job.config.isSome = false ∧
        replacement = none ∧ before = none) ∨
      (runtimeReplacementRequired live verified.digest job.config.isSome = true ∧
        replacement = some (surfaceWith observation verified.runtimeArtifact) ∧
        before = if job.runtimeKind.isContainer
          then some (surfaceWith observation observation.artifact) else none) := by
  unfold planReplacement at h
  split at h
  case isFalse unneeded =>
    cases h
    exact .inl ⟨by simpa using unneeded, rfl, rfl⟩
  case isTrue needed =>
    obtain ⟨planned, hplanned, h⟩ := bind_eq_ok h
    split at h
    case isTrue container =>
      obtain ⟨exact', hexact, h⟩ := bind_eq_ok h
      cases h
      exact .inr ⟨needed, by rw [replacementFromObservation_ok hplanned],
        by rw [if_pos container, exactReplacementFromObservation_ok hexact]⟩
    case isFalse unit =>
      cases h
      exact .inr ⟨needed, by rw [replacementFromObservation_ok hplanned], by rw [if_neg unit]⟩

namespace Owned

variable {kind : RuntimeBackendKind} {deploymentId : DeploymentId} {object : RuntimeObject}

theorem halted (h : Owned kind deploymentId object) : Owned kind deploymentId object.halted :=
  ⟨h.serverCommand, h.environment, h.label⟩

theorem launched (h : Owned kind deploymentId object) :
    Owned kind deploymentId object.launched :=
  ⟨h.serverCommand, h.environment, h.label⟩

theorem withBinary (h : Owned kind deploymentId object) (sha256 : Digest) :
    Owned kind deploymentId (object.withBinary sha256) :=
  ⟨h.serverCommand, h.environment, h.label⟩

/-- A container created from the observed surface is owned like the observed one. -/
theorem created (h : Owned kind deploymentId object) (container : kind.isContainer)
    (platform : Platform) (artifact : ArtifactReference) :
    Owned kind deploymentId
      (createdObject (surfaceWith (observation platform kind object) artifact)) where
  serverCommand := rfl
  environment := by simpa [createdObject, surfaceWith, observation] using h.environment
  label _ := by
    simpa [createdObject, surfaceWith, observation, container] using h.label container

end Owned

/-- What an admitted update has established about the world it started in. -/
structure Admitted (platform : Platform) (job : UpdateJob) (w : World) (plan : UpdatePlan)
    (object : RuntimeObject) (live : Digest) : Prop where
  declared : ∀ staged ∈ job.config, platform.sha256 staged.content = staged.sha256
  present : w.runtime = some object
  observed : plan.observation = observation platform job.runtimeKind object
  owned : Owned job.runtimeKind job.deploymentId object
  digest : plan.observation.digest = some live
  wasLive : plan.recordedCurrentWasLive = decide (live = job.currentArtifact)
  continuity : job.runtimeKind = .host → live = job.currentArtifact
  verified : (verifiedRelease platform job.requestedVersion
    (versionFloorForUpdate job.requestedVersion job.currentVersion) >>=
      artifactFacts job.runtimeKind job.runtimeRoot) = .ok plan.verified
  needed : ¬(job.appliedMigrationOperationId.isNone ∧
    updateIsNoop live job.currentArtifact plan.verified.digest job.config.isSome)
  config : ∃ text, updateConfig platform job w = .ok (text, plan.currentConfig) ∧
    requireSharedSigningKeyRoot platform job.secretsRoot w.secrets text job.runtimeKind
      plan.observation.mounts = .ok ()
  replacement : planReplacement job plan.observation live plan.verified =
    .ok (plan.replacement, plan.before)

theorem admitObservation_ok {platform : Platform} {job : UpdateJob} {object : RuntimeObject}
    {live : Digest × Bool}
    (h : admitObservation job (observation platform job.runtimeKind object) = .ok live) :
    Owned job.runtimeKind job.deploymentId object ∧
      (observation platform job.runtimeKind object).digest = some live.1 ∧
      live.2 = decide (live.1 = job.currentArtifact) ∧
      (job.runtimeKind = .host → live.1 = job.currentArtifact) := by
  obtain ⟨_, owned, h⟩ := bind_eq_ok h
  refine ⟨(requireObservationOwned_iff platform _ _ _).mp owned, ?_⟩
  cases hdigest : (observation platform job.runtimeKind object).digest with
  | none =>
    rw [hdigest] at h
    cases h
  | some digest =>
    rw [hdigest] at h
    obtain ⟨wasLive, continuity, h⟩ := bind_eq_ok h
    cases h
    unfold requireHostArtifactContinuity at continuity
    split at continuity
    · cases continuity
    · rename_i same
      cases continuity
      exact ⟨rfl, rfl, fun host => by_contra fun other => same ⟨host, other⟩⟩

theorem admission_some {platform : Platform} {job : UpdateJob} {w : World} {plan : UpdatePlan}
    (h : admission platform job w = .ok (some plan)) :
    ∃ object live, Admitted platform job w plan object live := by
  unfold admission at h
  split at h
  case isFalse => cases h
  rename_i declared
  cases present : w.runtime with
  | none =>
    rw [present] at h
    cases h
  | some object =>
    rw [present] at h
    obtain ⟨⟨live, wasLive⟩, observed, h⟩ := bind_eq_ok h
    obtain ⟨owned, digest, live_eq, continuity⟩ := admitObservation_ok observed
    obtain ⟨release, hrelease, h⟩ := bind_eq_ok h
    obtain ⟨verified, hverified, h⟩ := bind_eq_ok h
    simp only at h
    split at h
    case isTrue => cases h
    rename_i needed
    obtain ⟨⟨text, current⟩, config, h⟩ := bind_eq_ok h
    obtain ⟨_, key, h⟩ := bind_eq_ok h
    obtain ⟨⟨replacement, before⟩, planned, h⟩ := bind_eq_ok h
    cases h
    exact ⟨object, live, {
      declared, present, owned, digest, continuity, needed
      observed := rfl
      wasLive := live_eq
      verified := by rw [hrelease]; exact hverified
      config := ⟨text, config, key⟩
      replacement := planned }⟩

/-- The no-op answer: nothing is staged, and the selected artifact is the live and
the recorded one. -/
theorem admission_none {platform : Platform} {job : UpdateJob} {w : World}
    (h : admission platform job w = .ok none) :
    job.appliedMigrationOperationId = none ∧ job.config = none ∧
      ∃ facts, (verifiedRelease platform job.requestedVersion
          (versionFloorForUpdate job.requestedVersion job.currentVersion) >>=
            artifactFacts job.runtimeKind job.runtimeRoot) = .ok facts ∧
        facts.digest = job.currentArtifact := by
  unfold admission at h
  split at h
  case isFalse => cases h
  cases present : w.runtime with
  | none =>
    rw [present] at h
    cases h
  | some object =>
    rw [present] at h
    obtain ⟨⟨live, wasLive⟩, -, h⟩ := bind_eq_ok h
    obtain ⟨release, hrelease, h⟩ := bind_eq_ok h
    obtain ⟨verified, hverified, h⟩ := bind_eq_ok h
    simp only at h
    split at h
    case isTrue noop =>
      simp only [updateIsNoop, Option.isNone_iff_eq_none, Bool.and_eq_true, Bool.not_eq_true',
        Option.isSome_eq_false_iff, decide_eq_true_eq] at noop
      obtain ⟨unfenced, ⟨unstaged, selected⟩, recorded⟩ := noop
      exact ⟨unfenced, unstaged, verified, by rw [hrelease]; exact hverified,
        selected.symm.trans recorded⟩
    obtain ⟨_, -, h⟩ := bind_eq_ok h
    obtain ⟨_, -, h⟩ := bind_eq_ok h
    obtain ⟨_, -, h⟩ := bind_eq_ok h
    cases h

/-- None of the effects of admission fails or is cut off. -/
structure AdmissionUnfaulted (e : Attempt) : Prop where
  privilegeGate : e.faults .privilegeGate = .none
  inspect : e.faults (.inspect .change) = .none
  verifyRelease : e.faults .verifyRelease = .none
  fetchArtifact : e.faults .fetchArtifact = .none
  readConfig : e.faults .readConfig = .none
  readSigningKey : e.faults .readSigningKey = .none

theorem clean_admissionUnfaulted {e : Attempt} (h : e.clean) : AdmissionUnfaulted e :=
  ⟨h _, h _, h _, h _, h _, h _⟩

theorem readUpdateConfig_run {e : Attempt} (unfaulted : AdmissionUnfaulted e) (job : UpdateJob)
    (w : World) :
    readUpdateConfig job e w = (Outcome.ofExcept (updateConfig e.platform job w), w) := by
  unfold readUpdateConfig updateConfig
  cases hc : job.config with
  | some staged => rfl
  | none =>
    simp only [perform_none _ _ _ unfaulted.readConfig, run_bind, run_environment, run_get]
    cases w.config with
    | none => rfl
    | some bytes =>
      by_cases utf8 : e.platform.isUtf8 bytes = true <;> simp [run_bind, run_require, utf8]

/-- Without faults, admission answers what the platform, the job and the world say. -/
theorem admitUpdate_run {e : Attempt} (unfaulted : AdmissionUnfaulted e) (job : UpdateJob)
    (w : World) : (admitUpdate job e w).1 = Outcome.ofExcept (admission e.platform job w) := by
  unfold admitUpdate admission UpdateExec.privilegeGate
  rw [run_bind_ok (perform_none _ _ _ unfaulted.privilegeGate), run_bind_ok run_environment]
  by_cases declared : ∀ staged ∈ job.config, e.platform.sha256 staged.content = staged.sha256
  case neg =>
    rw [if_neg declared, run_bind_error (by rw [run_require, if_neg declared])]
    rfl
  rw [if_pos declared, run_bind_ok (by rw [run_require, if_pos declared])]
  cases present : w.runtime with
  | none =>
    rw [run_bind_error (inspect_none unfaulted.inspect present)]
    rfl
  | some object =>
    rw [run_bind_ok (inspect_some unfaulted.inspect present)]
    cases hlive : admitObservation job (observation e.platform job.runtimeKind object) with
    | error x => simp [run_bind, hlive, error_bind]
    | ok live =>
      rw [run_bind_ok run_ofExcept_ok]
      simp only [hlive, ok_bind, verifyPinnedArtifactFacts]
      cases hrelease : verifiedRelease e.platform job.requestedVersion
          (versionFloorForUpdate job.requestedVersion job.currentVersion) with
      | error x =>
        simp [run_bind, perform_none _ _ _ unfaulted.verifyRelease, hrelease, error_bind]
      | ok release =>
        cases hfacts : artifactFacts job.runtimeKind job.runtimeRoot release with
        | error x =>
          simp [run_bind, perform_none _ _ _ unfaulted.verifyRelease, hrelease, hfacts, ok_bind,
            error_bind]
        | ok verified =>
          simp only [run_bind, perform_none _ _ _ unfaulted.verifyRelease,
            perform_none _ _ _ unfaulted.fetchArtifact, hrelease, hfacts, ok_bind,
            run_environment, run_ofExcept, Outcome.ofExcept_ok, run_modify, run_pure]
          by_cases noop : job.appliedMigrationOperationId.isNone = true ∧
              updateIsNoop live.1 job.currentArtifact verified.digest job.config.isSome = true
          · rw [if_pos noop, if_pos noop]
            rfl
          · rw [if_neg noop, if_neg noop]
            have kept := keepArtifact_kept verified.runtimeArtifact w
            simp only [run_bind, readUpdateConfig_run unfaulted, updateConfig_congr kept.config,
              perform_none _ _ _ unfaulted.readSigningKey, run_get, run_ofExcept]
            cases hconfig : updateConfig e.platform job w with
            | error x => rfl
            | ok config =>
              simp only [Outcome.ofExcept_ok, ok_bind, kept.secrets]
              cases requireSharedSigningKeyRoot e.platform job.secretsRoot w.secrets config.1
                  job.runtimeKind (observation e.platform job.runtimeKind object).mounts with
              | error x => rfl
              | ok _ =>
                simp only [Outcome.ofExcept_ok, ok_bind]
                cases planReplacement job (observation e.platform job.runtimeKind object) live.1
                    verified with
                | error x => rfl
                | ok planned => rfl

end NazoAuthCtl.UpdateAdmission
