import NazoAuthCtl.RecoveryWorld
import Mathlib.Order.Nat

/-!
# Runs of the store's mutations

Every caller of the store loads, decides and persists under the state lock, so
a run of the store is a sequence of mutations of one document. A refused
mutation leaves the document as it is. Which commits one revision can authorize
and what a recorded migration holds off are properties of such runs.
-/

set_option autoImplicit false
set_option linter.all false

namespace NazoAuthCtl.StoreMutations

open TargetState TargetWorld RecoveryWorld

/-- `canonical_recovery_artifact`. -/
def canonicalRecoveryArtifact : ArtifactReference → Except Failure Digest
  | .oci _ digest => .ok digest
  | .hostBinary _ sha256 => .ok sha256
  | .unknown => .error ⟨.hostErrOperationInvalid, "recovery artifact is unknown"⟩

/-- `TargetStateStore::apply_recovery` on the loaded document. -/
def applyRecovery (state : DeploymentState) (expectedRevision : ℕ) (facts : RecoveryFacts)
    (operation : OperationId) : Except Failure DeploymentState :=
  if state.producedBy operation then .ok state
  else if state.config.revision ≠ expectedRevision then
    .error (revisionMismatch expectedRevision state)
  else if facts.operationId ≠ operation then
    .error ⟨.hostErrOperationInvalid, "recovery facts do not belong to the active host operation"⟩
  else match canonicalRecoveryArtifact facts.artifact with
    | .error failure => .error failure
    | .ok current =>
      .ok { state.dropLineage with
        artifact := { current := some current, previous := none }
        currentRelease := some facts.release
        appliedMigration := none
        config := state.config.advance state.config.reference facts.configSchema
        activeHostOperation := some operation }

/-- The mutations that commit a new document under the id of an operation. -/
inductive StoreCommit where
  | applyConfig (reference : Path) (schema : ConfigSchema) (operation : OperationId)
  | updateHealthy (commit : UpdateCommit) (recordedCurrentWasLive : Bool)
  | rollbackHealthy (config : Option (Path × ConfigSchema)) (operation : OperationId)
  | recovery (facts : RecoveryFacts) (operation : OperationId)
  deriving DecidableEq, Repr

def StoreCommit.operationId : StoreCommit → OperationId
  | .applyConfig _ _ operation => operation
  | .updateHealthy commit _ => commit.operationId
  | .rollbackHealthy _ operation => operation
  | .recovery _ operation => operation

def StoreCommit.apply (commit : StoreCommit) (expectedRevision : ℕ) (state : DeploymentState) :
    Except Failure DeploymentState :=
  match commit with
  | .applyConfig reference schema operation =>
    TargetState.applyConfig state expectedRevision reference schema operation
  | .updateHealthy commit wasLive =>
    applyUpdateHealthyFromLive state expectedRevision commit wasLive
  | .rollbackHealthy config operation =>
    applyRollbackHealthy state expectedRevision config operation
  | .recovery facts operation => applyRecovery state expectedRevision facts operation

/-- The commit carries a config of its own, or always writes one. -/
def StoreCommit.carriesConfig : StoreCommit → Prop
  | .applyConfig _ _ _ => True
  | .updateHealthy commit _ => commit.config.isSome
  | .rollbackHealthy config _ => config.isSome
  | .recovery _ _ => True

/-- A commit with the revision it was prepared against. -/
structure Prepared where
  expectedRevision : ℕ
  commit : StoreCommit
  deriving DecidableEq, Repr

def Prepared.next (prepared : Prepared) (state : DeploymentState) : DeploymentState :=
  match prepared.commit.apply prepared.expectedRevision state with
  | .ok state' => state'
  | .error _ => state

def run : DeploymentState → List Prepared → DeploymentState
  | state, [] => state
  | state, prepared :: rest => run (prepared.next state) rest

/-- The store accepts the commit, and it is not a replay. -/
def Prepared.commits (prepared : Prepared) (state : DeploymentState) : Prop :=
  ∃ state', prepared.commit.apply prepared.expectedRevision state = .ok state' ∧ state' ≠ state

/-- What a first commit does with the revision. -/
theorem apply_ok {commit : StoreCommit} {expectedRevision : ℕ}
    {state state' : DeploymentState} (h : commit.apply expectedRevision state = .ok state') :
    (state.producedBy commit.operationId ∧ state' = state) ∨
      (¬state.producedBy commit.operationId ∧ state'.producedBy commit.operationId ∧
        state.config.revision = expectedRevision ∧
        (commit.carriesConfig → state'.config.revision = expectedRevision + 1) ∧
        (¬commit.carriesConfig → state'.config.revision = expectedRevision)) := by
  cases commit with
  | applyConfig reference schema operation =>
    simp only [StoreCommit.apply, TargetState.applyConfig, StoreCommit.operationId] at h ⊢
    split_ifs at h with produced revision
    · cases h
      exact .inl ⟨produced, rfl⟩
    · cases h
      exact .inr ⟨produced, rfl, not_not.mp revision,
        fun _ => congrArg (· + 1) (not_not.mp revision), fun carries => absurd trivial carries⟩
  | updateHealthy commit wasLive =>
    simp only [StoreCommit.apply, StoreCommit.operationId, StoreCommit.carriesConfig] at h ⊢
    rcases applyUpdateHealthyFromLive_ok h with replay | ⟨fresh, committed⟩
    · exact .inl replay
    · refine .inr ⟨fresh, committed.produced, committed.revision, fun carries => ?_,
        fun carries => ?_⟩
      · obtain ⟨config, hconfig⟩ := Option.isSome_iff_exists.mp carries
        rw [committed.config, hconfig]
        exact congrArg (· + 1) committed.revision
      · rw [committed.config, Option.not_isSome_iff_eq_none.mp carries]
        exact committed.revision
  | rollbackHealthy config operation =>
    simp only [StoreCommit.apply, StoreCommit.operationId, StoreCommit.carriesConfig,
      applyRollbackHealthy] at h ⊢
    split_ifs at h with produced revision fenced
    · cases h
      exact .inl ⟨produced, rfl⟩
    · cases previous : state.artifact.previous with
      | none =>
        rw [previous] at h
        cases h
      | some generation =>
        rw [previous] at h
        cases h
        have revision := not_not.mp revision
        refine .inr ⟨produced, rfl, revision, fun carries => ?_, fun carries => ?_⟩
        · obtain ⟨config, rfl⟩ := Option.isSome_iff_exists.mp carries
          exact congrArg (· + 1) revision
        · obtain rfl := Option.not_isSome_iff_eq_none.mp carries
          exact revision
  | recovery facts operation =>
    simp only [StoreCommit.apply, StoreCommit.operationId, applyRecovery] at h ⊢
    split_ifs at h with produced revision named
    · cases h
      exact .inl ⟨produced, rfl⟩
    · cases artifact : canonicalRecoveryArtifact facts.artifact with
      | error failure =>
        rw [artifact] at h
        cases h
      | ok current =>
        rw [artifact] at h
        cases h
        exact .inr ⟨produced, rfl, not_not.mp revision,
          fun _ => congrArg (· + 1) (not_not.mp revision), fun carries => absurd trivial carries⟩

theorem apply_replay {commit : StoreCommit} {state : DeploymentState}
    (produced : state.producedBy commit.operationId) (expectedRevision : ℕ) :
    commit.apply expectedRevision state = .ok state := by
  cases commit with
  | applyConfig _ _ _ => exact if_pos produced
  | updateHealthy _ _ => exact if_pos produced
  | rollbackHealthy _ _ => exact if_pos produced
  | recovery _ _ => exact if_pos produced

/-- A commit is authorized by the revision the document holds, and leaves that revision or the
next one behind. -/
theorem Prepared.commits_next {prepared : Prepared} {state : DeploymentState}
    (h : prepared.commits state) :
    state.config.revision = prepared.expectedRevision ∧
      (prepared.commit.carriesConfig →
        (prepared.next state).config.revision = prepared.expectedRevision + 1) ∧
      (¬prepared.commit.carriesConfig →
        (prepared.next state).config.revision = prepared.expectedRevision) := by
  obtain ⟨state', accepted, changed⟩ := h
  rcases apply_ok accepted with ⟨-, same⟩ | ⟨-, -, revision, carries, keeps⟩
  · exact absurd same changed
  · simp only [Prepared.next, accepted]
    exact ⟨revision, carries, keeps⟩

theorem Prepared.next_unchanged {prepared : Prepared} {state : DeploymentState}
    (h : ¬prepared.commits state) : prepared.next state = state := by
  unfold Prepared.next
  cases accepted : prepared.commit.apply prepared.expectedRevision state with
  | error failure => rfl
  | ok state' =>
    by_contra changed
    exact h ⟨state', accepted, changed⟩

theorem Prepared.next_revision (prepared : Prepared) (state : DeploymentState) :
    state.config.revision ≤ (prepared.next state).config.revision := by
  by_cases commits : prepared.commits state
  · obtain ⟨revision, carries, keeps⟩ := commits_next commits
    by_cases config : prepared.commit.carriesConfig
    · have := carries config
      omega
    · have := keeps config
      omega
  · rw [next_unchanged commits]

theorem run_append (state : DeploymentState) (first second : List Prepared) :
    run state (first ++ second) = run (run state first) second := by
  induction first generalizing state with
  | nil => rfl
  | cons prepared rest ih => exact ih _

theorem run_revision (state : DeploymentState) (steps : List Prepared) :
    state.config.revision ≤ (run state steps).config.revision := by
  induction steps generalizing state with
  | nil => exact Nat.le_refl _
  | cons prepared rest ih => exact (prepared.next_revision state).trans (ih _)

/-- Before the first commit of a run the document is the one the run started on. -/
theorem first_commit (state : DeploymentState) (between : List Prepared) (last : Prepared)
    (after : List Prepared) (commits : last.commits (run state between)) :
    ∃ idle first rest, between ++ last :: after = idle ++ first :: rest ∧
      run state idle = state ∧ first.commits state := by
  induction between with
  | nil => exact ⟨[], last, after, rfl, rfl, commits⟩
  | cons prepared rest ih =>
    by_cases now : prepared.commits state
    · exact ⟨[], prepared, rest ++ last :: after, rfl, rfl, now⟩
    · have still := Prepared.next_unchanged now
      rw [run, still] at commits
      obtain ⟨idle, first, later, split, idles, first_commits⟩ := ih commits
      refine ⟨prepared :: idle, first, later, congrArg (prepared :: ·) split, ?_, first_commits⟩
      rw [run, still]
      exact idles

/-- One revision authorizes at most one commit of a run, and the producer of the current
document replays. -/
structure OnceAuthorized (state : DeploymentState) (steps : List Prepared) : Prop where
  once : ∀ before first between second after,
    steps = before ++ first :: (between ++ second :: after) →
    first.commits (run state before) →
    second.commits (run state (before ++ first :: between)) →
      first.expectedRevision ≠ second.expectedRevision
  replay : ∀ before prepared after, steps = before ++ prepared :: after →
    (run state before).producedBy prepared.commit.operationId →
      prepared.commit.apply prepared.expectedRevision (run state before) =
        .ok (run state before)

/-- Every commit of a run that another commit follows carries a config. -/
def CarryConfigs (state : DeploymentState) (steps : List Prepared) : Prop :=
  ∀ before first between second after,
    steps = before ++ first :: (between ++ second :: after) →
    first.commits (run state before) →
    second.commits (run state (before ++ first :: between)) → first.commit.carriesConfig

theorem once_authorized_iff (state : DeploymentState) (steps : List Prepared) :
    OnceAuthorized state steps ↔ CarryConfigs state steps := by
  constructor
  · intro h before first between second after split first_commits second_commits
    by_contra bare
    rw [run_append] at second_commits
    obtain ⟨revision, -, keeps⟩ := Prepared.commits_next first_commits
    obtain ⟨idle, next, rest, later, idles, next_commits⟩ :=
      first_commit (first.next (run state before)) between second after second_commits
    have held := (Prepared.commits_next next_commits).1
    have commits : next.commits (run state (before ++ first :: idle)) := by
      rw [run_append, run, idles]
      exact next_commits
    refine h.once before first idle next rest (by rw [split, later]) first_commits commits ?_
    rw [← held, keeps bare]
  · intro h
    refine ⟨fun before first between second after split first_commits second_commits => ?_,
      fun before prepared after _ produced => apply_replay produced _⟩
    have carries := h before first between second after split first_commits second_commits
    obtain ⟨-, advances, -⟩ := Prepared.commits_next first_commits
    have held := (Prepared.commits_next second_commits).1
    have later := run_revision (first.next (run state before)) between
    rw [run_append, run] at held
    have advanced := advances carries
    omega

/-- A healthy deployment at revision 4. -/
def releasedDeployment : DeploymentState where
  deploymentId := "deploy-alpha"
  issuer := "https://auth.example.com"
  runtime := ⟨.podman, "nazoauth-main", 8000⟩
  artifact := ⟨some 1, none⟩
  config := ⟨["etc", "config.yaml"], ⟨"v1", isIdentifier_v1⟩, 4⟩
  resources := []
  healthy := true
  appliedMigration := none
  activeHostOperation := some 10
  currentRelease := none
  previousRelease := none
  previousConfigSnapshot := none

/-- An update to an artifact with no staged config, prepared against revision 4. -/
def bareUpdate (operation : OperationId) (artifact : Digest) : Prepared where
  expectedRevision := 4
  commit := .updateHealthy ⟨none, artifact, none, none, operation⟩ true

/-- Operation 12 commits over operation 11 at the same revision, and the late retry of
operation 11 commits over operation 12. -/
theorem revision_authorizes_three_commits :
    ¬OnceAuthorized releasedDeployment [bareUpdate 11 2, bareUpdate 12 3, bareUpdate 11 2] ∧
      (run releasedDeployment [bareUpdate 11 2]).artifact.current = some 2 ∧
      (run releasedDeployment [bareUpdate 11 2, bareUpdate 12 3]).artifact.current = some 3 ∧
      (run releasedDeployment
        [bareUpdate 11 2, bareUpdate 12 3, bareUpdate 11 2]).artifact.current = some 2 := by
  refine ⟨fun h => ?_, rfl, rfl, rfl⟩
  refine h.once [] (bareUpdate 11 2) [] (bareUpdate 12 3) [bareUpdate 11 2] rfl ?_ ?_ rfl
  · exact ⟨_, rfl, by decide⟩
  · exact ⟨_, rfl, by decide⟩

inductive StoreMutation where
  | commit (prepared : Prepared)
  | recordMigration (expectedRevision : ℕ) (operation : OperationId) (targetArtifact : Digest)
  | remove (expectedRevision : ℕ)
  deriving DecidableEq, Repr

/-- One mutation of a document that exists; a removed one is `none`. -/
def StoreMutation.apply (mutation : StoreMutation) (state : DeploymentState) :
    Except Failure (Option DeploymentState) :=
  match mutation with
  | .commit prepared => (prepared.commit.apply prepared.expectedRevision state).map some
  | .recordMigration expectedRevision operation targetArtifact =>
    (recordMigrationApplied state expectedRevision operation targetArtifact).map some
  | .remove expectedRevision =>
    if state.config.revision ≠ expectedRevision then
      .error (revisionMismatch expectedRevision state)
    else .ok none

def StoreMutation.next (mutation : StoreMutation) (state : DeploymentState) : DeploymentState :=
  match mutation.apply state with
  | .ok (some state') => state'
  | _ => state

/-- What a recorded migration is to hold off: config changes, rollbacks, updates by another
operation or to another artifact, and other migrations. -/
def StoreMutation.heldOff (fence : AppliedMigration) : StoreMutation → Prop
  | .commit ⟨_, .applyConfig _ _ _⟩ => True
  | .commit ⟨_, .rollbackHealthy _ _⟩ => True
  | .commit ⟨_, .updateHealthy update _⟩ =>
    ¬(update.operationId = fence.operationId ∧ update.artifact = fence.targetArtifact)
  | .commit ⟨_, .recovery _ _⟩ => False
  | .recordMigration _ operation targetArtifact =>
    ¬(operation = fence.operationId ∧ targetArtifact = fence.targetArtifact)
  | .remove _ => False

/-- The update of the fence, a recovery or a removal takes effect. -/
def StoreMutation.lifts (fence : AppliedMigration) (state : DeploymentState)
    (mutation : StoreMutation) : Prop :=
  ¬mutation.heldOff fence ∧
    ∃ after, mutation.apply state = .ok after ∧ after ≠ some state

/-- The update commit of the fence still succeeds, and leaves no generation to roll back to. -/
def Resumable (revision : ℕ) (fence : AppliedMigration) (state : DeploymentState) : Prop :=
  ∀ commit wasLive, commit.operationId = fence.operationId →
    commit.artifact = fence.targetArtifact →
      ∃ state', applyUpdateHealthyFromLive state revision commit wasLive = .ok state' ∧
        state'.appliedMigration = none ∧
        state'.artifact = ⟨some fence.targetArtifact, none⟩ ∧
        state'.previousRelease = none ∧ state'.previousConfigSnapshot = none

/-- Along a run, until the fence is lifted, what it is to hold off is refused and its update
stays resumable. -/
def FenceHolds (revision : ℕ) (fence : AppliedMigration) :
    DeploymentState → List StoreMutation → Prop
  | state, [] => Resumable revision fence state
  | state, mutation :: rest =>
    Resumable revision fence state ∧
      (mutation.heldOff fence → ∃ failure, mutation.apply state = .error failure) ∧
      (¬mutation.lifts fence state → FenceHolds revision fence (mutation.next state) rest)

/-- The mutation changes the config at the document's revision, or repeats the operation that
produced the document. -/
def StoreMutation.intrudes (state : DeploymentState) : StoreMutation → Prop
  | .commit prepared =>
    state.producedBy prepared.commit.operationId ∨
      (prepared.expectedRevision = state.config.revision ∧
        ∃ reference schema operation,
          prepared.commit = .applyConfig reference schema operation)
  | _ => False

/-- Until the fence is lifted, nothing it is to hold off intrudes. -/
def LeftAlone (fence : AppliedMigration) (state : DeploymentState) : List StoreMutation → Prop
  | [] => True
  | mutation :: rest =>
    (mutation.heldOff fence → ¬mutation.intrudes state) ∧
      (¬mutation.lifts fence state → LeftAlone fence state rest)

section fence

variable {state : DeploymentState} {revision : ℕ} {fence : AppliedMigration}

/-- The update of a fence commits unless its operation already produced the document. -/
theorem resumable_iff (held : state.config.revision = revision)
    (fenced : state.appliedMigration = some fence) :
    Resumable revision fence state ↔ ¬state.producedBy fence.operationId := by
  constructor
  · intro resumable produced
    obtain ⟨state', accepted, unfenced, -⟩ := resumable
      ⟨none, fence.targetArtifact, none, none, fence.operationId⟩ true rfl rfl
    have replayed : applyUpdateHealthyFromLive state revision
        ⟨none, fence.targetArtifact, none, none, fence.operationId⟩ true = .ok state :=
      if_pos produced
    rw [replayed] at accepted
    cases accepted
    rw [fenced] at unfenced
    cases unfenced
  · intro fresh commit wasLive operation artifact
    rw [← operation] at fresh
    have matching : ¬∃ migration ∈ state.appliedMigration,
        migration.operationId ≠ commit.operationId ∨
          migration.targetArtifact ≠ commit.artifact := by
      simp [fenced, operation, artifact]
    rw [applyUpdateHealthyFromLive, if_neg fresh, if_neg (not_not.mpr held), if_neg matching]
    refine ⟨_, rfl, rfl, ?_⟩
    simp only [advanceLineage, fenced, Option.isSome_some, if_true]
    by_cases changed : state.dropLineage.artifact.current ≠ some commit.artifact ∨
        commit.config.isSome = true
    · rw [if_pos changed]
      simp [DeploymentState.dropLineage, DeploymentState.withCurrent, artifact]
    · rw [if_neg changed]
      have current : state.artifact.current = some commit.artifact := by
        by_contra other
        exact changed (.inl other)
      simp [DeploymentState.dropLineage, current, artifact]

/-- What a fence is to hold off is refused exactly where it does not intrude. -/
theorem heldOff_refused {mutation : StoreMutation}
    (fenced : state.appliedMigration = some fence) (heldOff : mutation.heldOff fence) :
    (∃ failure, mutation.apply state = .error failure) ↔ ¬mutation.intrudes state := by
  cases mutation with
  | commit prepared =>
    obtain ⟨expected, commit⟩ := prepared
    cases commit with
    | applyConfig reference schema operation =>
      simp only [StoreMutation.apply, StoreCommit.apply, TargetState.applyConfig,
        StoreMutation.intrudes, StoreCommit.operationId]
      split_ifs with produced stale
      · simp [produced, Except.map]
      · simp [produced, Except.map, Ne.symm stale]
      · simp [not_not.mp stale, Except.map]
    | updateHealthy update wasLive =>
      have other : ∃ migration ∈ state.appliedMigration,
          migration.operationId ≠ update.operationId ∨
            migration.targetArtifact ≠ update.artifact := by
        refine ⟨fence, fenced, ?_⟩
        by_contra same
        push Not at same
        exact heldOff ⟨same.1.symm, same.2.symm⟩
      simp only [StoreMutation.apply, StoreCommit.apply, applyUpdateHealthyFromLive,
        StoreMutation.intrudes, StoreCommit.operationId]
      split_ifs with produced stale
      · simp [produced, Except.map]
      · simp [produced, Except.map]
      · simp [produced, Except.map]
    | rollbackHealthy config operation =>
      simp only [StoreMutation.apply, StoreCommit.apply, applyRollbackHealthy,
        StoreMutation.intrudes, StoreCommit.operationId, fenced]
      split_ifs with produced stale fence_set
      · simp [produced, Except.map]
      · simp [produced, Except.map]
      · simp [produced, Except.map]
      · exact absurd rfl fence_set
    | recovery facts operation => exact absurd heldOff id
  | recordMigration expected operation targetArtifact =>
    have other : ¬(fence.operationId = operation ∧ fence.targetArtifact = targetArtifact) :=
      fun same => heldOff ⟨same.1.symm, same.2.symm⟩
    simp only [StoreMutation.apply, recordMigrationApplied, fenced, StoreMutation.intrudes]
    split_ifs with stale
    · simp [Except.map]
    · simp [Except.map]
  | remove expected => exact absurd heldOff id

/-- A mutation that neither intrudes nor lifts the fence leaves the document alone. -/
theorem next_fenced {mutation : StoreMutation} (fenced : state.appliedMigration = some fence)
    (alone : mutation.heldOff fence → ¬mutation.intrudes state)
    (kept : ¬mutation.lifts fence state) : mutation.next state = state := by
  unfold StoreMutation.next
  by_cases heldOff : mutation.heldOff fence
  · obtain ⟨failure, refused⟩ := (heldOff_refused fenced heldOff).mpr (alone heldOff)
    rw [refused]
  · cases applied : mutation.apply state with
    | error failure => rfl
    | ok after =>
      have same : after = some state := by
        by_contra changed
        exact kept ⟨heldOff, after, applied, changed⟩
      rw [same]

theorem fence_holds_iff (held : state.config.revision = revision)
    (fenced : state.appliedMigration = some fence) (steps : List StoreMutation) :
    FenceHolds revision fence state steps ↔
      ¬state.producedBy fence.operationId ∧ LeftAlone fence state steps := by
  induction steps with
  | nil => simp [FenceHolds, LeftAlone, resumable_iff held fenced]
  | cons mutation rest ih =>
    rw [FenceHolds, LeftAlone, resumable_iff held fenced]
    constructor
    · rintro ⟨fresh, refused, later⟩
      have alone : mutation.heldOff fence → ¬mutation.intrudes state :=
        fun heldOff => (heldOff_refused fenced heldOff).mp (refused heldOff)
      refine ⟨fresh, alone, fun kept => ?_⟩
      have still := later kept
      rw [next_fenced fenced alone kept] at still
      exact (ih.mp still).2
    · rintro ⟨fresh, alone, later⟩
      refine ⟨fresh, fun heldOff => (heldOff_refused fenced heldOff).mpr (alone heldOff),
        fun kept => ?_⟩
      rw [next_fenced fenced alone kept]
      exact ih.mpr ⟨fresh, later kept⟩

end fence

/-- A recorded migration keeps its update resumable along exactly the runs that leave it alone. -/
theorem recorded_migration_holds_iff {before state : DeploymentState} {revision : ℕ}
    {operation : OperationId} {targetArtifact : Digest}
    (recorded : recordMigrationApplied before revision operation targetArtifact = .ok state)
    (steps : List StoreMutation) :
    FenceHolds revision ⟨operation, targetArtifact⟩ state steps ↔
      ¬state.producedBy operation ∧ LeftAlone ⟨operation, targetArtifact⟩ state steps := by
  obtain ⟨written, held, -⟩ := recordMigrationApplied_ok recorded
  have fenced : state.appliedMigration = some ⟨operation, targetArtifact⟩ := by rw [written]
  have kept : state.config.revision = revision := by
    rw [written]
    exact held
  exact fence_holds_iff kept fenced steps

theorem releasedDeployment_recorded :
    recordMigrationApplied releasedDeployment 4 11 2 =
      .ok { releasedDeployment with appliedMigration := some ⟨11, 2⟩ } := rfl

theorem recorded_migration_holds_idle :
    FenceHolds 4 ⟨11, 2⟩
      { releasedDeployment with appliedMigration := some ⟨11, 2⟩ }
      [.commit ⟨4, .rollbackHealthy none 12⟩] :=
  (recorded_migration_holds_iff releasedDeployment_recorded _).mpr
    ⟨by decide, fun _ => by simp [StoreMutation.intrudes, StoreCommit.operationId,
      DeploymentState.producedBy, releasedDeployment], fun _ => trivial⟩

/-- A config change that passes the fence makes the update of the fence stale. -/
theorem config_change_passes_fence :
    recordMigrationApplied releasedDeployment 4 11 2 =
        .ok { releasedDeployment with appliedMigration := some ⟨11, 2⟩ } ∧
      ¬FenceHolds 4 ⟨11, 2⟩ { releasedDeployment with appliedMigration := some ⟨11, 2⟩ }
        [.commit ⟨4, .applyConfig ["etc", "config.yaml"] ⟨"v2", by decide⟩ 12⟩] := by
  refine ⟨releasedDeployment_recorded, fun h => ?_⟩
  obtain ⟨failure, refused⟩ := h.2.1 trivial
  cases refused

end NazoAuthCtl.StoreMutations
