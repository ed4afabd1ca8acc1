import Mathlib.Data.List.Basic
import NazoAuthCtl.RollbackReversal

/-!
# Which image a rollback looks for

`replace` tells an engine by text which image to run: by the image's local id, or by its
repository and digest. An engine shows a container under the text it was created from,
and `run_rollback` takes that text for the name of the repository.
-/

set_option autoImplicit false
set_option linter.all false

namespace NazoAuthCtl.RollbackImages

open FaultProgram TargetState TargetWorld UpdateExec RollbackExec LifecycleDispatch UpdateSteps
  UpdateCompletion UpdateResume RollbackResume
open Program

/-! ## Image texts -/

abbrev Text := List Char

def hexDigits : Text :=
  ['0', '1', '2', '3', '4', '5', '6', '7', '8', '9', 'a', 'b', 'c', 'd', 'e', 'f',
    'A', 'B', 'C', 'D', 'E', 'F']

def algorithm : Text := ['s', 'h', 'a', '2', '5', '6', ':']

/-- The 64 digits of a digest. -/
def BareDigest (value : Text) : Prop := value.length = 64 ∧ ∀ c ∈ value, c ∈ hexDigits

instance (value : Text) : Decidable (BareDigest value) := inferInstanceAs (Decidable (_ ∧ _))

/-- `normalize_local_image_id`. -/
def normalizeLocalImageId (value : Text) (allowBareDigest : Bool) : Option Text :=
  if allowBareDigest then
    let digits := (value.dropPrefix? algorithm).getD value
    if BareDigest digits then some (algorithm ++ digits.map Char.toLower) else none
  else
    let normalized := value.map Char.toLower
    match normalized.dropPrefix? algorithm with
    | none => none
    | some digits => if BareDigest digits then some normalized else none

/-- The text of a digest. -/
def digestText (digest : Digest) : Text :=
  algorithm ++ (List.range 64).reverse.map fun place => Nat.digitChar (digest >>> (4 * place) % 16)

/-- What stands before the first at sign, bound to a digest. -/
def pinned (reference : Text) (digest : Digest) : Text :=
  reference.takeWhile (· ≠ '@') ++ '@' :: digestText digest

/-- `runnable_oci_image`. -/
def runnableOciImage (reference : Text) (digest : Digest) (localId : Option Text) : Text :=
  (localId.or (normalizeLocalImageId reference true)).getD (pinned reference digest)

/-- The image argument of the `create` in `replace`. Podman's does not ask whether the
reference is itself an id. -/
def replacementImage (kind : RuntimeBackendKind) (reference : Text) (digest : Digest)
    (localId : Option Text) : Text :=
  if kind = .podman then localId.getD (pinned reference digest)
  else runnableOciImage reference digest localId

/-- The image that `run_rollback` asks the engine for. -/
def previousImage (shown : Text) (previous : Digest) : Text := shown ++ '@' :: digestText previous

/-- The text that an engine answers to for an image of a repository. -/
def storedImage (image : String × Digest) : Text := image.1.toList ++ '@' :: digestText image.2

/-- No engine stores an image under a repository with an at sign or one spelled as an id. -/
def RepositoryName (repository : Text) : Prop :=
  '@' ∉ repository ∧ normalizeLocalImageId repository true = none

instance (repository : Text) : Decidable (RepositoryName repository) :=
  inferInstanceAs (Decidable (_ ∧ _))

theorem digestText_plain (digest : Digest) : '@' ∉ digestText digest := by
  have plain : ∀ digit < 16, Nat.digitChar digit ≠ '@' := by decide
  intro member
  rcases List.mem_append.mp member with named | digit
  · exact absurd named (by decide)
  · obtain ⟨place, -, same⟩ := List.mem_map.mp digit
    exact plain _ (Nat.mod_lt _ (by decide)) same

theorem bareDigest_lower {digits : Text} (h : BareDigest digits) :
    BareDigest (digits.map Char.toLower) := by
  have lower : hexDigits.all (fun c => hexDigits.elem c.toLower) = true := by decide
  constructor
  · rw [List.length_map]
    exact h.1
  · intro c member
    obtain ⟨upper, found, rfl⟩ := List.mem_map.mp member
    exact List.elem_iff.mp (List.all_eq_true.mp lower upper (h.2 upper found))

theorem dropPrefix_algorithm (digits : Text) :
    (algorithm ++ digits).dropPrefix? algorithm = some digits :=
  List.dropPrefix?_eq_some_iff.mpr ⟨algorithm, rfl, by decide⟩

/-- What has been normalized is an id. -/
theorem normalizeLocalImageId_id {value id : Text} {allowBareDigest : Bool}
    (h : normalizeLocalImageId value allowBareDigest = some id) :
    normalizeLocalImageId id true ≠ none := by
  obtain ⟨digits, bare, rfl⟩ : ∃ digits, BareDigest digits ∧ id = algorithm ++ digits := by
    unfold normalizeLocalImageId at h
    split at h
    · dsimp only at h
      split at h
      · rename_i bare
        cases h
        exact ⟨_, bareDigest_lower bare, rfl⟩
      · cases h
    · dsimp only at h
      split at h
      · cases h
      · rename_i digits dropped
        split at h
        · rename_i bare
          cases h
          obtain ⟨named, split, same⟩ := List.dropPrefix?_eq_some_iff.mp dropped
          exact ⟨digits, bare, by rw [split, eq_of_beq same]⟩
        · cases h
  unfold normalizeLocalImageId
  rw [if_pos rfl, dropPrefix_algorithm]
  show (if BareDigest digits then _ else none) ≠ none
  rw [if_pos bare]
  simp

theorem pinned_unnamed (reference : Text) (digest : Digest) :
    ¬RepositoryName (pinned reference digest) :=
  fun name => name.1 (by simp [pinned])

/-- A container is never created from the plain name of a repository. -/
theorem replacementImage_unnamed (kind : RuntimeBackendKind) (reference : Text) (digest : Digest)
    {localId : Option Text} (ids : ∀ id ∈ localId, normalizeLocalImageId id true ≠ none) :
    ¬RepositoryName (replacementImage kind reference digest localId) := by
  cases localId with
  | some id =>
    have chosen : replacementImage kind reference digest (some id) = id := by
      simp [replacementImage, runnableOciImage]
    rw [chosen]
    exact fun name => ids id rfl name.2
  | none =>
    unfold replacementImage runnableOciImage
    split
    · exact pinned_unnamed reference digest
    · cases normalized : normalizeLocalImageId reference true with
      | none => exact pinned_unnamed reference digest
      | some id => exact fun name => normalizeLocalImageId_id normalized name.2

/-- The image looked for is a stored one only if the container is shown under the plain
name of its repository. -/
theorem stored_only_named {image : String × Digest} (name : RepositoryName image.1.toList)
    {shown : Text} {previous : Digest} (same : storedImage image = previousImage shown previous) :
    shown = image.1.toList :=
  ((List.append_cons_inj_of_notMem name.1 (digestText_plain _)).mp same).1.symm

/-! ## Containers in use -/

/-- The container that an engine makes of a replacement, as it inspects it. -/
def createdContainer (kind : RuntimeBackendKind) (replacement : RuntimeReplacement)
    (reference : String) (digest : Digest) (localId : Option Text) (shown : Digest) :
    RuntimeObject :=
  { createdObject replacement with
    artifact := .oci (String.ofList (replacementImage kind reference.toList digest localId)) shown }

/-- What can happen to the container of a deployment and to what surrounds it. Installs,
updates, undone updates and rollbacks consist of such steps. -/
inductive Step (kind : RuntimeBackendKind) : World → World → Prop
  | replaced (w : World) (replacement : RuntimeReplacement) (reference : String) (digest : Digest)
      (bound : replacement.artifact = .oci reference digest) (inspected : Option Text)
      (bare : Bool) (shown : Digest) :
      Step kind w (w.after (some (createdContainer kind replacement reference digest
          (inspected.bind (normalizeLocalImageId · bare)) shown))
        (.created (createdContainer kind replacement reference digest
          (inspected.bind (normalizeLocalImageId · bare)) shown)))
  | removed (w : World) : Step kind w (w.after none .removed)
  | started (w : World) (object : RuntimeObject) (present : w.runtime = some object) :
      Step kind w (w.after (some object.launched) (.started object.launched))
  | stopped (w : World) (object : RuntimeObject) (present : w.runtime = some object) :
      Step kind w (w.after (some object.halted) .stopped)
  | elsewhere (w w' : World) (same : w'.runtime = w.runtime) : Step kind w w'

/-- A deployment in use since before its install, when it had no container. -/
def InUse (kind : RuntimeBackendKind) (w : World) : Prop :=
  ∃ w₀, w₀.runtime = none ∧ Relation.ReflTransGen (Step kind) w₀ w

/-- The container is shown under a text that is not the plain name of a repository. -/
def Unnamed (w : World) : Prop :=
  ∀ object ∈ w.runtime, ∀ reference digest, object.artifact = .oci reference digest →
    ¬RepositoryName reference.toList

section runs

variable {kind : RuntimeBackendKind} {w w' : World}

theorem Step.unnamed (step : Step kind w w') (before : Unnamed w) : Unnamed w' := by
  cases step with
  | replaced replacement reference digest bound inspected bare shown =>
    rintro object present reference' digest' artifact
    cases present
    cases artifact
    rw [String.toList_ofList]
    apply replacementImage_unnamed
    intro id normalized
    obtain ⟨value, -, same⟩ := Option.bind_eq_some_iff.mp normalized
    exact normalizeLocalImageId_id same
  | removed => exact fun object present => absurd present (by simp)
  | started object present =>
    rintro launched here
    cases here
    exact before object present
  | stopped object present =>
    rintro halted here
    cases here
    exact before object present
  | elsewhere _ same =>
    intro object present
    exact before object (same.symm.trans present)

theorem InUse.unnamed (use : InUse kind w) : Unnamed w := by
  obtain ⟨w₀, absent, steps⟩ := use
  induction steps with
  | refl => simp [Unnamed, absent]
  | tail _ step ih => exact step.unnamed ih

end runs

/-! ## Rollbacks of containers -/

/-- An order to roll back that a container deployment can carry out. -/
structure Admissible (platform : Platform) (order : RollbackOrder) (w : World)
    (state : DeploymentState) (previous : Digest) : Prop where
  loaded : w.state = some state
  container : state.runtime.kind.isContainer
  fresh : ¬state.producedBy order.operationId
  revision : state.config.revision = order.expectedRevision
  unfenced : state.appliedMigration = none
  pair : state.artifact.previous = some previous
  serves : ∃ object reference current, w.runtime = some object ∧
    object.artifact = .oci reference current ∧ state.artifact.current = some current
  image : ∃ image ∈ w.images, image.2 = previous
  snapshot : ∃ operation bytes schema, state.previousConfigSnapshot = some operation ∧
    Restorable platform operation w bytes schema

/-- The rollback goes through: the previous artifact runs and is recorded. -/
def GoesThrough (order : RollbackOrder) (e : Attempt) (w : World) (previous : Digest) : Prop :=
  ∃ completion w', answerRollback order e w = (.ok completion, w') ∧
    (∃ object ∈ w'.runtime, object.running = true ∧
      ∃ reference, object.artifact = .oci reference previous) ∧
    ∃ state ∈ w'.state, state.artifact.current = some previous

section admission

variable {order : RollbackOrder} {state : DeploymentState} {previous : Digest} {e : Attempt}
  {w : World} {job : RollbackJob}

/-- The image looked for is not found, so nothing is admitted. -/
theorem admitRollback_missing (clean : e.clean) (container : job.runtimeKind.isContainer)
    (hprevious : job.previousArtifact = some previous) {object : RuntimeObject}
    (present : w.runtime = some object) {reference : String}
    (serves : object.artifact = .oci reference job.currentArtifact)
    (missing : (reference, previous) ∉ w.images) :
    ∃ detail, admitRollback job e w = (.error ⟨.rollbackArtifactMissing, detail⟩, w) := by
  have engine : job.runtimeKind ≠ .host := by
    intro host
    rw [host] at container
    cases container
  have checked : requireObservationServes (observation e.platform job.runtimeKind object)
      job.currentArtifact = .ok () := by
    simp [requireObservationServes, RuntimeObservation.digest, observation, serves]
  have before : (exactReplacementFromObservation
      (observation e.platform job.runtimeKind object)).map some =
      .ok (some (surfaceWith (observation e.platform job.runtimeKind object) object.artifact)) := by
    unfold exactReplacementFromObservation
    simp only [observation, replacementFromObservation, serves]
    rw [if_neg engine]
    rfl
  have absent : ∃ detail, previousRuntimeArtifact job.runtimeKind
      (observation e.platform job.runtimeKind object) job.runtimeRoot previous w =
        .error ⟨.rollbackArtifactMissing, detail⟩ := by
    unfold previousRuntimeArtifact
    rw [if_neg engine]
    simp only [observation, serves, if_neg missing]
    exact ⟨_, rfl⟩
  obtain ⟨detail, absent⟩ := absent
  refine ⟨detail, ?_⟩
  unfold admitRollback UpdateExec.privilegeGate
  rw [run_bind_ok (perform_none _ _ _ (clean _))]
  simp only [hprevious]
  rw [run_bind_ok (inspect_some (clean _) present),
    run_bind_ok (by rw [checked, run_ofExcept_ok]), if_pos container,
    run_bind_ok (by rw [before, run_ofExcept_ok])]
  apply run_bind_error
  rw [perform_none _ _ _ (clean _), run_bind_ok run_get, absent]
  rfl

/-- A rollback that is not admitted changes nothing. -/
theorem executeRollback_refused {failure : Failure}
    (refused : admitRollback job e w = (.error failure, w)) :
    executeRollback job e w = (.error failure, w) := by
  have ran : runRollback job e ⟨w, {}⟩ = (.error failure, ⟨w, {}⟩) :=
    run_bind_error (by rw [run_onWorld, refused])
  rw [executeRollback, ran]
  rfl

/-- The previous image is stored, but not under the text that is looked for. -/
theorem previousImage_unstored (unnamed : Unnamed w)
    (names : ∀ image ∈ w.images, RepositoryName image.1.toList) {object : RuntimeObject}
    (present : object ∈ w.runtime) {reference : String} {digest : Digest}
    (artifact : object.artifact = .oci reference digest) :
    ∀ image ∈ w.images, storedImage image ≠ previousImage reference.toList previous := by
  intro image stored same
  have named := stored_only_named (names image stored) same
  exact unnamed object present reference digest artifact (named ▸ names image stored)

theorem answerRollback_refused (clean : e.clean) (unnamed : Unnamed w)
    (names : ∀ image ∈ w.images, RepositoryName image.1.toList)
    (admissible : Admissible e.platform order w state previous) :
    ∃ detail, answerRollback order e w = (.error ⟨.rollbackArtifactMissing, detail⟩, w) := by
  obtain ⟨object, reference, current, present, artifact, recorded⟩ := admissible.serves
  have missing : (reference, previous) ∉ w.images := fun stored =>
    unnamed object present reference current artifact (names _ stored)
  obtain ⟨detail, unadmitted⟩ := @admitRollback_missing previous e w
    (rollbackJob order state current) clean admissible.container admissible.pair _ present _
    artifact missing
  refine ⟨detail, ?_⟩
  unfold answerRollback
  rw [run_bind_ok (loadState_run clean admissible.loaded), if_neg admissible.fresh,
    run_bind_ok (by rw [run_require, if_pos admissible.revision]),
    run_bind_ok (by rw [run_require, if_pos admissible.unfenced])]
  simp only [recorded]
  rw [run_bind_error (executeRollback_refused unadmitted)]

theorem refused_not_through {failure : Failure} {w' : World}
    (refused : answerRollback order e w = (.error failure, w')) :
    ¬GoesThrough order e w previous := by
  rintro ⟨completion, _, answered, -⟩
  rw [refused] at answered
  cases answered

/-- No order to roll back goes through for a container deployment: the image that the
previous artifact is kept under is never the one looked for. -/
theorem rollback_never_admitted (clean : e.clean) (use : InUse state.runtime.kind w)
    (names : ∀ image ∈ w.images, RepositoryName image.1.toList)
    (admissible : Admissible e.platform order w state previous) :
    (∀ object ∈ w.runtime, ∀ reference digest, object.artifact = .oci reference digest →
        ∀ image ∈ w.images, storedImage image ≠ previousImage reference.toList previous) ∧
      (∃ detail, answerRollback order e w = (.error ⟨.rollbackArtifactMissing, detail⟩, w)) ∧
      ¬GoesThrough order e w previous := by
  obtain ⟨detail, refused⟩ := answerRollback_refused clean use.unnamed names admissible
  refine ⟨?_, ⟨detail, refused⟩, refused_not_through refused⟩
  intro object present reference digest artifact
  exact previousImage_unstored use.unnamed names present artifact

end admission

/-- Nor would it go through for a running container if the image were found: `replace`
refuses the source that `run_rollback` has left running. -/
theorem running_never_rolled_back {job : RollbackJob} {e : Attempt} {w w' : World}
    {object : RuntimeObject} {facts : LifecycleFacts} (container : job.runtimeKind.isContainer)
    (present : w.runtime = some object) (running : object.running = true) :
    executeRollback job e w ≠ (.ok facts, w') := by
  intro executed
  obtain ⟨run, ran, -⟩ := executeRollback_ok executed
  have phases : RanBack job e w (.ok facts) run.world := by
    have := runRollback_ensures job e ⟨w, {}⟩
    rwa [Ensures, ran] at this
  generalize run.world = finished at phases
  cases phases with
  | refused _ unfinished => exact absurd rfl (unfinished facts)
  | unpaired _ _ _ _ unfinished => exact absurd rfl (unfinished facts)
  | unstarted _ _ _ _ unfinished => exact absurd rfl (unfinished facts)
  | started _ _ _ _ unfinished => exact absurd rfl (unfinished facts)
  | committed plan _ _ w₁ paired replacement _ _ replaced =>
    cases replaced with
    | kept _ unfinished => exact absurd rfl unfinished
    | removed _ unfinished => exact absurd rfl unfinished
    | unitStopped _ unfinished => exact absurd rfl unfinished
    | overwritten unit => simp [container] at unit
    | created _ repository digest artifact free =>
      have kept : w₁.runtime = some object := by
        rw [paired.world]
        exact present
      have idle := (mayRemoveSource_ok.mp (free object kept)).2
      rw [running] at idle
      cases idle

section inputs

open UpdateReplay (twoReleases undisturbed deployed deployedState deployedObject)
open RollbackReversal (updatedState)

def firstReplacement : RuntimeReplacement :=
  surfaceWith (observation twoReleases .docker (deployedObject .docker))
    (.oci "ghcr.io/nazozero/nazoauth" 10)

def secondReplacement : RuntimeReplacement :=
  surfaceWith (observation twoReleases .docker (deployedObject .docker))
    (.oci "ghcr.io/nazozero/nazoauth" 11)

def firstContainer : RuntimeObject :=
  createdContainer .docker firstReplacement "ghcr.io/nazozero/nazoauth" 10 none 10

def secondContainer : RuntimeObject :=
  createdContainer .docker secondReplacement "ghcr.io/nazozero/nazoauth" 11 none 11

/-- The sample deployment under Docker after an update to the second Release. -/
def updatedContainer : World :=
  { deployed .docker with
    runtime := some secondContainer.launched
    config := some [2]
    configSnapshots := RollbackReversal.updatedUnit.configSnapshots
    state := some { updatedState with runtime := ⟨.docker, "nazoauth", 8080⟩ }
    images := [("ghcr.io/nazozero/nazoauth", 11), ("ghcr.io/nazozero/nazoauth", 10)] }

theorem updatedContainer_inUse : InUse .docker updatedContainer := by
  let w₀ := { deployed .docker with runtime := none }
  have installed := (Relation.ReflTransGen.single
    (Step.replaced w₀ firstReplacement _ 10 rfl none true 10)).tail (.started _ firstContainer rfl)
  have updated := ((installed.tail (.stopped _ firstContainer.launched rfl)).tail
    (.replaced _ secondReplacement _ 11 rfl none true 11)).tail (.started _ secondContainer rfl)
  exact ⟨w₀, rfl, updated.tail (.elsewhere _ _ rfl)⟩

theorem updatedContainer_admissible : Admissible twoReleases ⟨3, 5⟩ updatedContainer
    { updatedState with runtime := ⟨.docker, "nazoauth", 8080⟩ } 10 where
  loaded := rfl
  container := rfl
  fresh := by decide
  revision := rfl
  unfenced := rfl
  pair := rfl
  serves := ⟨_, _, _, rfl, rfl, rfl⟩
  image := ⟨("ghcr.io/nazozero/nazoauth", 10), by decide, rfl⟩
  snapshot := ⟨2, _, _, rfl, _, rfl, rfl, rfl, rfl, rfl⟩

theorem updatedContainer_names :
    ∀ image ∈ updatedContainer.images, RepositoryName image.1.toList := by decide

/-- The sample deployment cannot go back to its first Release, whose image is stored. -/
theorem updated_container_not_rolled_back :
    InUse .docker updatedContainer ∧
      Admissible twoReleases ⟨3, 5⟩ updatedContainer
        { updatedState with runtime := ⟨.docker, "nazoauth", 8080⟩ } 10 ∧
      (undisturbed twoReleases).clean ∧
      ¬GoesThrough ⟨3, 5⟩ (undisturbed twoReleases) updatedContainer 10 := by
  obtain ⟨detail, refused⟩ := @answerRollback_refused _ _ _ (undisturbed twoReleases) _ (fun _ => rfl)
    updatedContainer_inUse.unnamed updatedContainer_names updatedContainer_admissible
  exact ⟨updatedContainer_inUse, updatedContainer_admissible, fun _ => rfl,
    refused_not_through refused⟩

theorem updated_container_refused :
    ∃ detail, answerRollback ⟨3, 5⟩ (undisturbed twoReleases) updatedContainer =
      (.error ⟨.rollbackArtifactMissing, detail⟩, updatedContainer) :=
  (rollback_never_admitted (fun _ => rfl) updatedContainer_inUse updatedContainer_names
    updatedContainer_admissible).2.1

/-- The roll back of the sample deployment, past its admission. -/
def sampleRollback : RollbackJob where
  operationId := 3
  deploymentId := "main"
  issuer := updatedState.issuer
  runtimeKind := .docker
  configReference := updatedState.config.reference
  port := 8080
  runtimeRoot := none
  configSchema := updatedState.config.schema
  currentArtifact := 11
  previousArtifact := some 10
  previousConfigSnapshot := some 2
  expectedRevision := 5

theorem updated_container_kept_running : ¬∃ facts w', executeRollback sampleRollback
    (undisturbed twoReleases) updatedContainer = (.ok facts, w') := by
  rintro ⟨facts, w', executed⟩
  exact running_never_rolled_back (by rfl) rfl rfl executed

end inputs

end NazoAuthCtl.RollbackImages
