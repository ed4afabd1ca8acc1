import NazoAuthCtl.StateDocument

/-!
# Reading a committed state back

The operations validate what they are given but for two things. A document is bounded
where it is read and not where it is written, and a revision is counted up without a
check. Everything else that an operation commits is valid again.
-/

set_option autoImplicit false
set_option linter.all false

namespace NazoAuthCtl.StateReadback

open Checks DeploymentPaths StateDocument
open TargetState (DeploymentId)

/-! ## Valid states -/

variable {platform : DocumentPlatform}

/-- What `DeploymentState::validate` accepts, check by check. -/
structure Valid (platform : DocumentPlatform) (state : DeploymentState) : Prop where
  schema : state.schema = deploymentStateSchema
  scope : isDeploymentScope state.deploymentId
  issuer : validateIssuer platform state.issuer = .ok ()
  runtime : state.runtime.validate = .ok ()
  current : checkOptional validateReference state.artifact.current = .ok ()
  previous : checkOptional validateReference state.artifact.previous = .ok ()
  migration : checkOptional AppliedMigration.validate state.appliedMigration = .ok ()
  config : ConfigState.validateFields state.config.reference state.config.schema = .ok ()
  revision : state.config.revision ≠ 0
  resources : validateResources [] state.resources = .ok ()
  health : state.localHealth.summary.utf8ByteSize ≤ 512
  active : ∀ active ∈ state.activeHostOperation,
    active.operationId ≠ "" ∧ active.operationId.utf8ByteSize ≤ 128
  currentRelease : checkOptional ReleaseVersion.validate state.currentRelease = .ok ()
  previousRelease : checkOptional ReleaseVersion.validate state.previousRelease = .ok ()

theorem validate_ok {state : DeploymentState} :
    state.validate platform = .ok () ↔ Valid platform state := by
  simp only [DeploymentState.validate, ArtifactRefs.validate, bind_ok, exists_unit, check_ok]
  constructor
  · rintro ⟨schema, scope, issuer, runtime, ⟨current, previous⟩, migration, config, revision,
      resources, health, active, currentRelease, previousRelease⟩
    exact ⟨schema, scope, issuer, runtime, current, previous, migration, config, revision,
      resources, health, active, currentRelease, previousRelease⟩
  · intro valid
    exact ⟨valid.schema, valid.scope, valid.issuer, valid.runtime,
      ⟨valid.current, valid.previous⟩, valid.migration, valid.config, valid.revision,
      valid.resources, valid.health, valid.active, valid.currentRelease, valid.previousRelease⟩

theorem uuid_size {text : String} (uuid : isUuidV7 text) :
    text ≠ "" ∧ text.utf8ByteSize ≤ 128 := by
  unfold isUuidV7 at uuid
  have sized : 0 < text.utf8ByteSize ∧ text.utf8ByteSize ≤ 128 := by
    split_ifs at uuid <;> omega
  refine ⟨?_, sized.2⟩
  rintro rfl
  exact absurd sized.1 (by decide)

/-! ## The store -/

theorem deploymentScope_ok {deploymentId scope : DeploymentId} :
    deploymentScope deploymentId = .ok scope ↔
      isDeploymentScope deploymentId ∧ scope = deploymentId := by
  unfold deploymentScope
  by_cases legal : isDeploymentScope deploymentId
  · simp [legal, eq_comm]
  · simp [legal]

theorem loadExisting_ok {store : Store} {deploymentId : DeploymentId} {state : DeploymentState} :
    loadExisting platform store deploymentId = .ok state ↔
      isDeploymentScope deploymentId ∧ ∃ bytes, store.lookup deploymentId = some bytes ∧
        bytes.size ≤ maxStateBytes ∧ platform.parse bytes = .ok state ∧ Valid platform state := by
  simp only [loadExisting, bind_ok, deploymentScope_ok]
  constructor
  · rintro ⟨scope, ⟨legal, rfl⟩, read⟩
    refine ⟨legal, ?_⟩
    unfold readState at read
    cases held : store.lookup scope with
    | none => simp [held] at read
    | some bytes =>
      by_cases large : maxStateBytes < bytes.size
      · simp [held, large] at read
      · simp only [held, if_neg large, mapError_ok, readDeploymentState, bind_ok,
          exists_unit, pure_ok] at read
        obtain ⟨parsed, reads, valid, same⟩ := read
        cases same
        exact ⟨bytes, rfl, Nat.le_of_not_lt large, reads, validate_ok.mp valid⟩
  · rintro ⟨legal, bytes, held, within, reads, valid⟩
    refine ⟨deploymentId, ⟨legal, rfl⟩, ?_⟩
    simp only [readState, held, if_neg (Nat.not_lt.mpr within), mapError_ok, readDeploymentState,
      bind_ok, exists_unit, pure_ok]
    exact ⟨state, reads, validate_ok.mpr valid, rfl⟩

/-- A committed document is read back exactly when it is valid and not too large. -/
theorem load_persisted {store : Store} {deploymentId : DeploymentId} {next : DeploymentState}
    (legal : isDeploymentScope deploymentId)
    (reads : platform.parse (document platform next) = .ok next) :
    loadExisting platform (persist platform store deploymentId next) deploymentId = .ok next ↔
      (document platform next).size ≤ maxStateBytes ∧ Valid platform next := by
  have held : (persist platform store deploymentId next).lookup deploymentId =
      some (document platform next) := by simp [persist]
  rw [loadExisting_ok]
  constructor
  · rintro ⟨_, bytes, found, within, _, valid⟩
    rw [held] at found
    cases found
    exact ⟨within, valid⟩
  · rintro ⟨within, valid⟩
    exact ⟨legal, document platform next, held, within, reads, valid⟩

/-! ## What an operation proposes -/

def nextConfig (config : ConfigState) : Option (String × String) → ConfigState
  | none => config
  | some (reference, schema) => ⟨reference, schema, config.revision + 1⟩

theorem advanced_ok {config next : ConfigState} {change : Option (String × String)} :
    advanced config change = .ok next ↔ next = nextConfig config change ∧
      ∀ pair ∈ change, ConfigState.validateFields pair.1 pair.2 = .ok () := by
  cases change with
  | none => simp [advanced, nextConfig, eq_comm]
  | some pair =>
    simp only [advanced, mapError_ok, ConfigState.advance, ConfigState.seed, bind_ok, exists_unit,
      pure_ok, nextConfig, Option.mem_some_iff, forall_eq']
    constructor
    · rintro ⟨accepted, rfl⟩
      exact ⟨rfl, accepted⟩
    · rintro ⟨rfl, accepted⟩
      exact ⟨accepted, rfl⟩

/-- The live state already carries the operation. -/
def Replayed (operationId : String) (state : DeploymentState) : Mutation → Prop
  | .recordMigrationApplied _ targetArtifact => ∃ migration ∈ state.appliedMigration,
      migration.operationId = operationId ∧ migration.targetArtifact = targetArtifact
  | _ => state.producedBy operationId

/-- The change counts the revision up. -/
def Advances : Mutation → Prop
  | .applyConfig .. | .applyRecovery .. => True
  | .recordMigrationApplied .. => False
  | .applyUpdateHealthyFromLive _ _ _ _ config _ | .applyRollbackHealthy _ config => config.isSome

/-- The state of the arguments over the live one. -/
def proposal (operationId : String) (clock : Clock) (state : DeploymentState) :
    Mutation → DeploymentState
  | .applyConfig _ reference schema => { state with
      config := nextConfig state.config (some (reference, schema))
      activeHostOperation := some ⟨operationId, clock.appliedAt⟩ }
  | .recordMigrationApplied _ targetArtifact => { state with
      appliedMigration := some ⟨operationId, targetArtifact, clock.appliedAt⟩ }
  | .applyUpdateHealthyFromLive _ configSnapshot artifact release config live =>
    { state.updateLineage ⟨configSnapshot, artifact, release, config, operationId⟩ live with
      config := nextConfig state.config config
      currentRelease := release
      appliedMigration := none
      activeHostOperation := some ⟨operationId, clock.appliedAt⟩
      localHealth := ⟨true, "local readiness probe passed after update", clock.checkedAt⟩ }
  | .applyRecovery _ facts => { state with
      artifact := ⟨(canonicalRecoveryArtifact facts.artifact).toOption, none⟩
      config := nextConfig state.config (some (state.config.reference, facts.configSchema))
      appliedMigration := none
      activeHostOperation := some ⟨operationId, clock.appliedAt⟩
      currentRelease := some facts.release
      previousRelease := none
      previousConfigSnapshot := none }
  | .applyRollbackHealthy _ config => { state with
      artifact := ⟨state.artifact.previous, state.artifact.current⟩
      config := nextConfig state.config config
      currentRelease := state.previousRelease
      previousRelease := state.currentRelease
      previousConfigSnapshot := config.map fun _ => operationId
      activeHostOperation := some ⟨operationId, clock.appliedAt⟩
      localHealth := ⟨true, "local readiness probe passed after rollback", clock.checkedAt⟩ }

/-! ## What it proposes is valid -/

section valid

variable {state : DeploymentState}

theorem nextConfig_valid {change : Option (String × String)} (valid : Valid platform state)
    (accepted : ∀ pair ∈ change, ConfigState.validateFields pair.1 pair.2 = .ok ()) :
    ConfigState.validateFields (nextConfig state.config change).reference
      (nextConfig state.config change).schema = .ok () := by
  cases change with
  | none => exact valid.config
  | some pair => exact accepted pair rfl

theorem dropLineage_valid (valid : Valid platform state) :
    Valid platform state.dropLineage :=
  { valid with previous := rfl, previousRelease := rfl }

theorem keepLineage_valid (valid : Valid platform state) (snapshot : Option String) :
    Valid platform (state.keepLineage snapshot) :=
  { valid with
    current := rfl
    previous := valid.current
    currentRelease := rfl
    previousRelease := valid.currentRelease }

theorem updateLineage_valid (valid : Valid platform state) {update : UpdateCommit} (live : Bool)
    (accepted : validateReference update.artifact = .ok ()) :
    Valid platform (state.updateLineage update live) := by
  have fenced : Valid platform (if state.appliedMigration.isSome then state.dropLineage
      else state) := by
    split
    · exact dropLineage_valid valid
    · exact valid
  unfold DeploymentState.updateLineage
  generalize (if state.appliedMigration.isSome then state.dropLineage else state) = lineage
    at fenced ⊢
  dsimp only
  split
  · split
    · exact { keepLineage_valid fenced update.configSnapshot with current := accepted }
    · exact { dropLineage_valid fenced with current := accepted }
  · exact fenced

end valid


/-! ## What an operation commits -/

/-- A change either finds itself applied or commits what it proposes, valid but for a revision
that has wrapped. -/
def Commits (platform : DocumentPlatform) (operationId : String) (clock : Clock)
    (state : DeploymentState) (mutation : Mutation) (result : Option DeploymentState) : Prop :=
  (Replayed operationId state mutation ∧ result = none) ∨
    (¬Replayed operationId state mutation ∧
      result = some (proposal operationId clock state mutation) ∧
      (Valid platform (proposal operationId clock state mutation) ↔
        (proposal operationId clock state mutation).config.revision ≠ 0))

section changes

variable {deploymentId : DeploymentId} {operationId : String} {clock : Clock}
  {state : DeploymentState} {result : Option DeploymentState}

theorem commits_replayed {mutation : Mutation} (replayed : Replayed operationId state mutation) :
    Commits platform operationId clock state mutation none := by
  exact Or.inl ⟨replayed, rfl⟩

theorem commits_proposal {mutation : Mutation} (fresh : ¬Replayed operationId state mutation)
    (valid : (proposal operationId clock state mutation).config.revision ≠ 0 →
      Valid platform (proposal operationId clock state mutation)) :
    Commits platform operationId clock state mutation
      (some (proposal operationId clock state mutation)) := by
  exact Or.inr ⟨fresh, rfl, fun accepted => accepted.revision, valid⟩

theorem active_valid (uuid : isUuidV7 operationId) (clock : Clock) :
    ∀ active ∈ some (ActiveHostOperationRef.mk operationId clock.appliedAt),
      active.operationId ≠ "" ∧ active.operationId.utf8ByteSize ≤ 128 := by
  intro active same
  cases same
  exact uuid_size uuid

theorem configChange_commits {expected : UInt64} {reference schema : String}
    (valid : Valid platform state) (uuid : isUuidV7 operationId)
    (accepted : configChange deploymentId expected reference schema operationId clock state =
      .ok result) :
    Commits platform operationId clock state (.applyConfig expected reference schema) result := by
  unfold configChange at accepted
  by_cases produced : state.producedBy operationId
  · rw [if_pos produced, pure_ok] at accepted
    rw [← accepted]
    exact commits_replayed produced
  · simp only [if_neg produced, bind_ok, exists_unit, check_ok, pure_ok, advanced_ok] at accepted
    obtain ⟨_, config, ⟨rfl, fields⟩, rfl⟩ := accepted
    refine commits_proposal produced fun revision => ?_
    exact { valid with
      config := nextConfig_valid valid fields
      revision := revision
      active := active_valid uuid clock }

theorem migrationChange_commits {expected : UInt64} {targetArtifact : String}
    (accepted : migrationChange platform deploymentId expected operationId targetArtifact clock
      state = .ok result) :
    Commits platform operationId clock state (.recordMigrationApplied expected targetArtifact)
      result := by
  simp only [migrationChange, bind_ok, exists_unit, check_ok] at accepted
  obtain ⟨_, accepted⟩ := accepted
  cases recorded : state.appliedMigration with
  | none =>
    simp only [recorded, bind_ok, exists_unit, mapError_ok, validate_ok, pure_ok] at accepted
    obtain ⟨valid, rfl⟩ := accepted
    refine commits_proposal ?_ fun _ => valid
    rintro ⟨migration, found, _⟩
    rw [recorded] at found
    cases found
  | some existing =>
    by_cases same : existing.operationId = operationId ∧ existing.targetArtifact = targetArtifact
    · simp only [recorded, if_pos same, pure_ok] at accepted
      rw [← accepted]
      exact commits_replayed ⟨existing, recorded, same⟩
    · simp only [recorded, if_neg same] at accepted
      cases accepted

theorem updateLineage_config (state : DeploymentState) (update : UpdateCommit) (live : Bool) :
    (state.updateLineage update live).config = state.config := by
  unfold DeploymentState.updateLineage
  dsimp only
  split_ifs <;> rfl

theorem updateChange_commits {expected : UInt64} {configSnapshot : Option String}
    {artifact : String} {release : Option ReleaseVersion} {config : Option (String × String)}
    {live : Bool} (valid : Valid platform state) (uuid : isUuidV7 operationId)
    (accepted : updateChange deploymentId expected
      ⟨configSnapshot, artifact, release, config, operationId⟩ live clock state = .ok result) :
    Commits platform operationId clock state
      (.applyUpdateHealthyFromLive expected configSnapshot artifact release config live)
      result := by
  unfold updateChange at accepted
  by_cases produced : state.producedBy operationId
  · rw [if_pos produced, pure_ok] at accepted
    rw [← accepted]
    exact commits_replayed produced
  · simp only [if_neg produced, bind_ok, exists_unit, check_ok, mapError_ok, pure_ok,
      advanced_ok, updateLineage_config] at accepted
    obtain ⟨_, named, released, _, next, ⟨rfl, fields⟩, rfl⟩ := accepted
    refine commits_proposal produced fun revision => ?_
    exact { updateLineage_valid valid live named with
      config := nextConfig_valid valid fields
      revision := revision
      migration := rfl
      currentRelease := released
      active := active_valid uuid clock
      health := by
        show "local readiness probe passed after update".utf8ByteSize ≤ 512
        decide }

theorem recoveryChange_commits {expected : UInt64} {facts : RecoveryFacts}
    (accepted : recoveryChange platform deploymentId expected facts operationId clock state =
      .ok result) :
    Commits platform operationId clock state (.applyRecovery expected facts) result := by
  unfold recoveryChange at accepted
  by_cases produced : state.producedBy operationId
  · rw [if_pos produced, pure_ok] at accepted
    rw [← accepted]
    exact commits_replayed produced
  · simp only [if_neg produced, bind_ok, exists_unit, check_ok, mapError_ok, pure_ok,
      advanced_ok, validate_ok] at accepted
    obtain ⟨_, _, _, artifact, canonical, next, ⟨rfl, _⟩, valid, rfl⟩ := accepted
    have same : some artifact = (canonicalRecoveryArtifact facts.artifact).toOption := by
      rw [canonical]
      rfl
    rw [same] at valid ⊢
    exact commits_proposal produced fun _ => valid

theorem rollbackChange_commits {expected : UInt64} {config : Option (String × String)}
    (valid : Valid platform state) (uuid : isUuidV7 operationId)
    (accepted : rollbackChange deploymentId expected config operationId clock state =
      .ok result) :
    Commits platform operationId clock state (.applyRollbackHealthy expected config) result := by
  unfold rollbackChange at accepted
  by_cases produced : state.producedBy operationId
  · rw [if_pos produced, pure_ok] at accepted
    rw [← accepted]
    exact commits_replayed produced
  · simp only [if_neg produced, bind_ok, exists_unit, check_ok] at accepted
    obtain ⟨_, _, accepted⟩ := accepted
    cases saved : state.artifact.previous with
    | none =>
      rw [saved] at accepted
      cases accepted
    | some previous =>
      simp only [saved, bind_ok, pure_ok, advanced_ok] at accepted
      obtain ⟨next, ⟨rfl, fields⟩, rfl⟩ := accepted
      have proposed := @commits_proposal platform operationId clock state
        (.applyRollbackHealthy expected config) produced fun revision =>
          { valid with
            current := valid.previous
            previous := valid.current
            config := nextConfig_valid valid fields
            revision := revision
            currentRelease := valid.previousRelease
            previousRelease := valid.currentRelease
            active := active_valid uuid clock
            health := by
              show "local readiness probe passed after rollback".utf8ByteSize ≤ 512
              decide }
      simpa only [proposal, saved] using proposed

theorem change_commits {mutation : Mutation} (valid : Valid platform state)
    (uuid : isUuidV7 operationId)
    (accepted : mutation.change platform deploymentId operationId clock state = .ok result) :
    Commits platform operationId clock state mutation result := by
  cases mutation with
  | applyConfig expected reference schema => exact configChange_commits valid uuid accepted
  | recordMigrationApplied expected targetArtifact => exact migrationChange_commits accepted
  | applyUpdateHealthyFromLive expected snapshot artifact release config live =>
    exact updateChange_commits valid uuid accepted
  | applyRecovery expected facts => exact recoveryChange_commits accepted
  | applyRollbackHealthy expected config => exact rollbackChange_commits valid uuid accepted

end changes


/-! ## The first state -/

def healthRecord (healthy : Bool) (clock : Clock) : HealthRecord :=
  if healthy then ⟨true, "local readiness probe passed after clean install", clock.checkedAt⟩
  else ⟨false, "bootstrapped; runtime health not yet observed", clock.checkedAt⟩

/-- The state of the arguments of a bootstrap. -/
def firstState (deploymentId : DeploymentId) (params : BootstrapParams) (operationId : String)
    (localHealth : HealthRecord) (appliedAt : Timestamp) : DeploymentState :=
  { schema := deploymentStateSchema
    deploymentId := deploymentId
    issuer := params.issuer
    runtime := params.runtime
    artifact := params.artifact
    config := ⟨params.configReference, params.configSchema, 1⟩
    resources := params.resources
    localHealth := localHealth
    appliedMigration := none
    activeHostOperation := some ⟨operationId, appliedAt⟩
    currentRelease := params.currentRelease
    previousRelease := none
    previousConfigSnapshot := none }

section runs

variable {store after : Store} {deploymentId : DeploymentId} {operationId : String}
  {clock : Clock} {state : DeploymentState}

theorem bootstrapWithHealth_ok {params : BootstrapParams} {localHealth : HealthRecord}
    {appliedAt : Timestamp}
    (accepted : bootstrapWithHealth platform store deploymentId params operationId localHealth
      appliedAt = .ok (after, state)) :
    (loadExisting platform store deploymentId = .ok state ∧ after = store) ∨
      ((∃ failure, loadExisting platform store deploymentId = .error failure) ∧
        isDeploymentScope deploymentId ∧
        state = firstState deploymentId params operationId localHealth appliedAt ∧
        Valid platform state ∧ after = persist platform store deploymentId state) := by
  simp only [bootstrapWithHealth, bind_ok, deploymentScope_ok] at accepted
  obtain ⟨scope, ⟨legal, rfl⟩, accepted⟩ := accepted
  cases live : loadExisting platform store scope with
  | ok existing =>
    rw [live] at accepted
    dsimp only at accepted
    split_ifs at accepted
    · cases accepted
      exact Or.inl ⟨rfl, rfl⟩
  | error failure =>
    simp only [live, bind_ok, exists_unit, check_ok] at accepted
    obtain ⟨_, states, _, accepted⟩ := accepted
    cases taken : states.find? (·.runtime.loopbackPort = params.runtime.loopbackPort) with
    | some owner =>
      rw [taken] at accepted
      cases accepted
    | none =>
      simp only [taken, bind_ok, mapError_ok, ConfigState.seed, exists_unit, pure_ok,
        validate_ok] at accepted
      obtain ⟨config, ⟨_, rfl⟩, valid, same⟩ := accepted
      cases same
      exact Or.inr ⟨⟨failure, rfl⟩, legal, rfl, valid, rfl⟩

theorem commit_ok {change : DeploymentState → Except Failure (Option DeploymentState)}
    (accepted : commit platform store deploymentId change = .ok (after, state)) :
    ∃ live result, loadExisting platform store deploymentId = .ok live ∧
      change live = .ok result ∧ state = result.getD live ∧
      after = (result.elim store fun next => persist platform store deploymentId next) := by
  simp only [commit, bind_ok, deploymentScope_ok] at accepted
  obtain ⟨scope, ⟨_, rfl⟩, live, loaded, result, changed, accepted⟩ := accepted
  refine ⟨live, result, loaded, changed, ?_⟩
  cases result with
  | none =>
    cases accepted
    exact ⟨rfl, rfl⟩
  | some next =>
    cases accepted
    exact ⟨rfl, rfl⟩

end runs

/-! ## Reading back -/

/-- The revision stays or is counted up by one. -/
def Monotonic (platform : DocumentPlatform) (before : Store) (deploymentId : DeploymentId)
    (state : DeploymentState) : Prop :=
  ∀ previous, loadExisting platform before deploymentId = .ok previous →
    state.config.revision.toNat = previous.config.revision.toNat ∨
      state.config.revision.toNat = previous.config.revision.toNat + 1

/-- The state is there for the next operation. -/
structure ReadBack (platform : DocumentPlatform) (before after : Store)
    (deploymentId : DeploymentId) (state : DeploymentState) : Prop where
  loaded : loadExisting platform after deploymentId = .ok state
  bounded : ∃ bytes, after.lookup deploymentId = some bytes ∧ bytes.size ≤ maxStateBytes
  validated : state.validate platform = .ok ()
  monotonic : Monotonic platform before deploymentId state

/-- The operation is there already, or the document of its arguments is small enough to be read
and the revision can be counted up. -/
def Fits (platform : DocumentPlatform) (store : Store) (order : Order) : Prop :=
  match order.call, loadExisting platform store order.deploymentId with
  | .bootstrap _ _, .ok _ => True
  | .bootstrap params healthy, .error _ =>
    (document platform (firstState order.deploymentId params order.operationId
      (healthRecord healthy order.clock) order.clock.appliedAt)).size ≤ maxStateBytes
  | .mutate mutation, .ok live => Replayed order.operationId live mutation ∨
    (document platform (proposal order.operationId order.clock live mutation)).size ≤ maxStateBytes
      ∧ (Advances mutation → live.config.revision ≠ 18446744073709551615)
  | .mutate _, .error _ => True

theorem readBack_of_loaded {before after : Store} {deploymentId : DeploymentId}
    {state : DeploymentState} (loaded : loadExisting platform after deploymentId = .ok state)
    (monotonic : Monotonic platform before deploymentId state) :
    ReadBack platform before after deploymentId state := by
  obtain ⟨_, bytes, held, bounded, _, valid⟩ := loadExisting_ok.mp loaded
  exact ⟨loaded, ⟨bytes, held, bounded⟩, validate_ok.mpr valid, monotonic⟩

theorem proposal_revision (operationId : String) (clock : Clock) (state : DeploymentState)
    (mutation : Mutation) :
    (Advances mutation ∧ (proposal operationId clock state mutation).config.revision =
        state.config.revision + 1) ∨
      (¬Advances mutation ∧ (proposal operationId clock state mutation).config.revision =
        state.config.revision) := by
  cases mutation with
  | applyConfig expected reference schema => exact Or.inl ⟨trivial, rfl⟩
  | recordMigrationApplied expected targetArtifact => exact Or.inr ⟨id, rfl⟩
  | applyUpdateHealthyFromLive expected snapshot artifact release config live =>
    cases config with
    | none => exact Or.inr ⟨Bool.false_ne_true, rfl⟩
    | some pair => exact Or.inl ⟨rfl, rfl⟩
  | applyRecovery expected facts => exact Or.inl ⟨trivial, rfl⟩
  | applyRollbackHealthy expected config =>
    cases config with
    | none => exact Or.inr ⟨Bool.false_ne_true, rfl⟩
    | some pair => exact Or.inl ⟨rfl, rfl⟩

theorem succ_toNat {revision : UInt64} (fits : revision ≠ 18446744073709551615) :
    (revision + 1).toNat = revision.toNat + 1 := by
  have bounded := revision.toNat_lt
  have distinct : revision.toNat ≠ 18446744073709551615 := fun same =>
    fits (UInt64.toNat_inj.mp same)
  rw [UInt64.toNat_add]
  show (revision.toNat + 1) % 2 ^ 64 = _
  omega

theorem succ_ne_zero {revision : UInt64} :
    revision + 1 ≠ 0 ↔ revision ≠ 18446744073709551615 := by
  constructor
  · rintro counted rfl
    exact counted rfl
  · intro fits wrapped
    have counted := succ_toNat fits
    rw [wrapped] at counted
    exact absurd counted (Nat.succ_ne_zero _).symm

theorem bootstrap_empty {deploymentId : DeploymentId} {params : BootstrapParams}
    {operationId : String} {localHealth : HealthRecord} {appliedAt : Timestamp}
    (valid : Valid platform (firstState deploymentId params operationId localHealth appliedAt)) :
    bootstrapWithHealth platform [] deploymentId params operationId localHealth appliedAt =
      .ok (persist platform [] deploymentId
          (firstState deploymentId params operationId localHealth appliedAt),
        firstState deploymentId params operationId localHealth appliedAt) := by
  have legal : deploymentScope deploymentId = .ok deploymentId :=
    deploymentScope_ok.mpr ⟨valid.scope, rfl⟩
  have unknown : loadExisting platform [] deploymentId =
      .error (unknownDeployment platform deploymentId) := by
    rw [loadExisting, legal]
    rfl
  have config : ConfigState.seed 1 params.configReference params.configSchema =
      .ok ⟨params.configReference, params.configSchema, 1⟩ := by
    simp only [ConfigState.seed, bind_ok, exists_unit, pure_ok, and_true]
    exact valid.config
  have accepted := validate_ok.mpr valid
  simp only [bootstrapWithHealth, bind_ok]
  refine ⟨deploymentId, legal, ?_⟩
  simp only [unknown, bind_ok, exists_unit]
  refine ⟨check_ok.mpr rfl, [], by simp [listDeployments, listEntries], ?_⟩
  simp only [List.find?_nil, bind_ok, mapError_ok, exists_unit, pure_ok]
  exact ⟨_, config, accepted, rfl⟩

def exampleParams (issuer : String) : BootstrapParams where
  issuer := issuer
  runtime := ⟨.docker, "nazo-auth", 18080⟩
  artifact := ⟨none, none⟩
  configReference := "/etc/nazo/server.toml"
  configSchema := "v1"
  resources := []
  currentRelease := none

def exampleOrder (issuer : String) : Order where
  deploymentId := "auth"
  operationId := "0190a0b0-0000-7000-8000-000000000001"
  clock := ⟨0, 0⟩
  call := .bootstrap (exampleParams issuer) true

def exampleState (issuer : String) : DeploymentState :=
  firstState "auth" (exampleParams issuer) "0190a0b0-0000-7000-8000-000000000001"
    (healthRecord true ⟨0, 0⟩) 0

def examplePlatform (parse : ByteArray → Except String DeploymentState) : DocumentPlatform where
  root := "/var/lib/nazauthctl/target-state"
  parseUrl text :=
    if "https://".toList <+: text.toList then some ⟨false, "https", "", none⟩ else none
  timeText _ := "1970-01-01T00:00:00Z"
  parse := parse

/-- A parser that meets one document. -/
def readsOnly (state : DeploymentState) : DocumentPlatform :=
  examplePlatform fun bytes =>
    if bytes.data = (document (examplePlatform fun _ => .error "") state).data then .ok state
    else .error "expected value at line 1 column 1"

theorem readsOnly_reads (state : DeploymentState) :
    (readsOnly state).parse (document (readsOnly state) state) = .ok state := by
  have reading : (readsOnly state).parse = fun bytes =>
      if bytes.data = (document (examplePlatform fun _ => .error "") state).data then .ok state
      else .error "expected value at line 1 column 1" := rfl
  rw [reading]
  exact if_pos rfl

theorem exampleState_valid {issuer : String} (named : "https://".toList <+: issuer.toList) :
    Valid (readsOnly (exampleState issuer)) (exampleState issuer) where
  schema := rfl
  scope := by
    show isDeploymentScope "auth"
    decide
  issuer := by
    have parsed : (readsOnly (exampleState issuer)).parseUrl issuer =
        some ⟨false, "https", "", none⟩ := if_pos named
    show validateIssuer _ issuer = _
    simp only [validateIssuer, parsed]
    rfl
  runtime := by
    show (RuntimeSurface.mk .docker "nazo-auth" 18080).validate = .ok ()
    decide
  current := rfl
  previous := rfl
  migration := rfl
  config := by
    show ConfigState.validateFields "/etc/nazo/server.toml" "v1" = .ok ()
    decide
  revision := by
    show (1 : UInt64) ≠ 0
    decide
  resources := rfl
  health := by
    show "local readiness probe passed after clean install".utf8ByteSize ≤ 512
    decide
  active := active_valid (by decide) ⟨0, 0⟩
  currentRelease := rfl
  previousRelease := rfl

theorem exampleOrder_run {issuer : String} (named : "https://".toList <+: issuer.toList) :
    (exampleOrder issuer).run (readsOnly (exampleState issuer)) [] =
      .ok (persist (readsOnly (exampleState issuer)) [] "auth" (exampleState issuer),
        exampleState issuer) :=
  bootstrap_empty (exampleState_valid named)

/-- An order finds itself applied, or it has written a document that fits exactly when it is small
and valid. -/
theorem order_run_ok {store after : Store} {order : Order} {state : DeploymentState}
    (uuid : isUuidV7 order.operationId) (accepted : order.run platform store = .ok (after, state)) :
    (after = store ∧ loadExisting platform store order.deploymentId = .ok state ∧
      Fits platform store order) ∨
    (after = persist platform store order.deploymentId state ∧
      isDeploymentScope order.deploymentId ∧
      (Fits platform store order ↔
        (document platform state).size ≤ maxStateBytes ∧ Valid platform state) ∧
      (Valid platform state → Monotonic platform store order.deploymentId state)) := by
  cases called : order.call with
  | bootstrap params healthy =>
    have committed : bootstrapWithHealth platform store order.deploymentId params
        order.operationId (healthRecord healthy order.clock) order.clock.appliedAt =
        .ok (after, state) := by
      rw [← accepted, Order.run, called]
      cases healthy <;> rfl
    rcases bootstrapWithHealth_ok committed with ⟨loaded, rfl⟩ | ⟨⟨failure, unknown⟩, legal, same,
      valid, rfl⟩
    · refine Or.inl ⟨rfl, loaded, ?_⟩
      simp only [Fits, called, loaded]
    · refine Or.inr ⟨rfl, legal, ?_, ?_⟩
      · simp only [Fits, called, unknown, ← same, valid, and_true]
      · intro _ previous before
        rw [unknown] at before
        cases before
  | mutate mutation =>
    have committed : commit platform store order.deploymentId
        (mutation.change platform order.deploymentId order.operationId order.clock) =
        .ok (after, state) := by
      rw [← accepted, Order.run, called]
    obtain ⟨live, result, loaded, changed, rfl, rfl⟩ := commit_ok committed
    obtain ⟨legal, _, _, _, _, valid⟩ := loadExisting_ok.mp loaded
    rcases change_commits valid uuid changed with ⟨replayed, rfl⟩ | ⟨fresh, rfl, counted⟩
    · refine Or.inl ⟨rfl, loaded, ?_⟩
      simp only [Fits, called, loaded]
      exact Or.inl replayed
    · have revision : (proposal order.operationId order.clock live mutation).config.revision ≠ 0 ↔
          (Advances mutation → live.config.revision ≠ 18446744073709551615) := by
        rcases proposal_revision order.operationId order.clock live mutation with
          ⟨advances, next⟩ | ⟨stays, next⟩
        · simp only [next, succ_ne_zero, advances, true_implies]
        · simp only [next, stays, false_implies, iff_true]
          exact valid.revision
      have fits : Fits platform store order ↔
          (document platform (proposal order.operationId order.clock live mutation)).size ≤
            maxStateBytes ∧
          Valid platform (proposal order.operationId order.clock live mutation) := by
        simp only [Fits, called, loaded, fresh, false_or, counted, revision]
      refine Or.inr ⟨rfl, legal, fits, ?_⟩
      intro next previous before
      rw [loaded] at before
      cases before
      rw [Option.getD_some] at next ⊢
      rcases proposal_revision order.operationId order.clock live mutation with
        ⟨advances, same⟩ | ⟨stays, same⟩
      · rw [same, succ_toNat (revision.mp next.revision advances)]
        exact Or.inr rfl
      · rw [same]
        exact Or.inl rfl

/-- In every store, what an operation answers with is read back exactly when its arguments
fit. -/
theorem committed_state_read_back {store after : Store} {order : Order} {state : DeploymentState}
    (uuid : isUuidV7 order.operationId)
    (accepted : order.run platform store = .ok (after, state))
    (reads : platform.parse (document platform state) = .ok state) :
    ReadBack platform store after order.deploymentId state ↔ Fits platform store order := by
  rcases order_run_ok uuid accepted with ⟨rfl, loaded, fits⟩ | ⟨rfl, legal, fits, monotonic⟩
  · simp only [fits, iff_true]
    refine readBack_of_loaded loaded fun previous before => Or.inl ?_
    rw [loaded] at before
    cases before
    rfl
  · rw [fits, ← load_persisted legal reads]
    constructor
    · intro back
      exact back.loaded
    · intro loaded
      have valid := ((load_persisted legal reads).mp loaded).2
      exact readBack_of_loaded loaded (monotonic valid)

theorem small_document_fits : (document (readsOnly (exampleState "https://issuer.example"))
    (exampleState "https://issuer.example")).size ≤ maxStateBytes := by
  decide +kernel

theorem small_document_read_back :
    ReadBack (readsOnly (exampleState "https://issuer.example")) []
      (persist (readsOnly (exampleState "https://issuer.example")) [] "auth"
        (exampleState "https://issuer.example"))
      "auth" (exampleState "https://issuer.example") := by
  have run := @exampleOrder_run "https://issuer.example" (by decide)
  exact (@committed_state_read_back _ _ _ (exampleOrder "https://issuer.example") _
    (by decide) run (readsOnly_reads _)).mpr small_document_fits

theorem load_oversized {store : Store} {deploymentId : DeploymentId} {state : DeploymentState}
    (legal : isDeploymentScope deploymentId)
    (large : maxStateBytes < (document platform state).size) :
    loadExisting platform (persist platform store deploymentId state) deploymentId =
      .error (oversizedState platform deploymentId) := by
  have held : (persist platform store deploymentId state).lookup deploymentId =
      some (document platform state) := by simp [persist]
  have scope := deploymentScope_ok.mpr ⟨legal, rfl⟩
  rw [loadExisting, scope]
  show readState platform _ deploymentId = _
  rw [readState, held]
  exact if_pos large

/-- The document holds the issuer. -/
theorem issuer_size (platform : DocumentPlatform) (state : DeploymentState) :
    state.issuer.toList.length ≤ (document platform state).size := by
  have field : ("issuer", JsonText.string state.issuer) ∈ state.fields platform := by
    simp [DeploymentState.fields]
  exact Nat.le_trans (JsonText.length_le_quoted state.issuer) (JsonText.size_object field 0)

/-- An issuer with a long path. -/
def longIssuer (length : ℕ) : String :=
  "https://issuer.example/" ++ String.ofList (List.replicate length 'a')

theorem longIssuer_named (length : ℕ) : "https://".toList <+: (longIssuer length).toList := by
  unfold longIssuer
  simp only [String.toList_append]
  exact List.IsPrefix.trans (by decide : "https://".toList <+: "https://issuer.example/".toList)
    (List.prefix_append _ _)

theorem longIssuer_length (length : ℕ) : length < (longIssuer length).toList.length := by
  unfold longIssuer
  simp only [String.toList_append]
  rw [List.length_append]
  simp only [String.toList_ofList, List.length_replicate]
  exact Nat.lt_add_of_pos_left (by decide)

/-- `validate_issuer` bounds no length. -/
theorem longIssuer_not_read_back {length : ℕ} (large : maxStateBytes ≤ length) :
    ∃ after, (exampleOrder (longIssuer length)).run (readsOnly (exampleState (longIssuer length)))
        [] = .ok (after, exampleState (longIssuer length)) ∧
      loadExisting (readsOnly (exampleState (longIssuer length))) after "auth" =
        .error (oversizedState (readsOnly (exampleState (longIssuer length))) "auth") := by
  have long := Nat.lt_of_le_of_lt large (longIssuer_length length)
  have size := issuer_size (readsOnly (exampleState (longIssuer length)))
    (exampleState (longIssuer length))
  exact ⟨_, exampleOrder_run (longIssuer_named length),
    load_oversized (by decide) (Nat.lt_of_lt_of_le long size)⟩

theorem large_issuer_not_read_back :
    isUuidV7 (exampleOrder (longIssuer maxStateBytes)).operationId ∧
    (readsOnly (exampleState (longIssuer maxStateBytes))).parse
      (document (readsOnly (exampleState (longIssuer maxStateBytes)))
        (exampleState (longIssuer maxStateBytes))) =
          .ok (exampleState (longIssuer maxStateBytes)) ∧
    ∃ after, (exampleOrder (longIssuer maxStateBytes)).run
        (readsOnly (exampleState (longIssuer maxStateBytes))) [] =
          .ok (after, exampleState (longIssuer maxStateBytes)) ∧
      loadExisting (readsOnly (exampleState (longIssuer maxStateBytes))) after "auth" =
        .error (oversizedState (readsOnly (exampleState (longIssuer maxStateBytes))) "auth") := by
  have uuid : isUuidV7 "0190a0b0-0000-7000-8000-000000000001" := by decide
  exact ⟨uuid, readsOnly_reads _, longIssuer_not_read_back (Nat.le_refl _)⟩

/-! ## Runs -/

/-- Every document of the store is a state. -/
def Readable (platform : DocumentPlatform) (store : Store) : Prop :=
  ∀ deploymentId bytes, store.lookup deploymentId = some bytes →
    ∃ state, loadExisting platform store deploymentId = .ok state

/-- The stores of runs whose orders fit. -/
inductive Reached (platform : DocumentPlatform) : Store → Prop
  | empty : Reached platform []
  | step {store after : Store} {order : Order} {state : DeploymentState}
      (reached : Reached platform store) (uuid : isUuidV7 order.operationId)
      (accepted : order.run platform store = .ok (after, state))
      (reads : platform.parse (document platform state) = .ok state)
      (fits : Fits platform store order) : Reached platform after

theorem lookup_filter_ne {deploymentId other : DeploymentId} (store : Store)
    (distinct : other ≠ deploymentId) :
    (store.filter (·.1 ≠ deploymentId)).lookup other = store.lookup other := by
  have different : (other == deploymentId) = false := by simpa using distinct
  induction store with
  | nil => rfl
  | cons entry store ih =>
    by_cases same : entry.1 = deploymentId
    · rw [List.filter_cons_of_neg (by simpa using same), ih, List.lookup_cons, same, different]
    · rw [List.filter_cons_of_pos (by simpa using same), List.lookup_cons, List.lookup_cons, ih]

theorem lookup_persist_ne {store : Store} {deploymentId other : DeploymentId}
    (state : DeploymentState) (distinct : other ≠ deploymentId) :
    (persist platform store deploymentId state).lookup other = store.lookup other := by
  have different : (other == deploymentId) = false := by simpa using distinct
  simp only [persist, List.lookup_cons, different]
  exact lookup_filter_ne store distinct

theorem loadExisting_congr {store store' : Store} {deploymentId : DeploymentId}
    (same : store.lookup deploymentId = store'.lookup deploymentId) {state : DeploymentState}
    (loaded : loadExisting platform store deploymentId = .ok state) :
    loadExisting platform store' deploymentId = .ok state := by
  rw [loadExisting_ok] at loaded ⊢
  rwa [← same]

end NazoAuthCtl.StateReadback
