import NazoAuthCtl.CrashResume

/-!
# Rollbacks one after the other

A deployment holds two generations of what it runs: the current one lives in the
document and the config file, the previous one in the document and in the snapshot that
the document names. A rollback exchanges the two, so a second one puts the first back.
-/

set_option autoImplicit false
set_option linter.all false

namespace NazoAuthCtl.RollbackReversal

open FaultProgram TargetState TargetWorld UpdateExec RollbackExec LifecycleDispatch UpdateSteps
  UpdateResume RollbackResume
open Program

/-- What a deployment runs, and with which config. -/
structure Generation where
  artifact : Digest
  release : Option ReleaseVersion
  config : Bytes
  schema : ConfigSchema
  deriving DecidableEq, Repr

/-- The current and the previous generation of a deployment that a rollback accepts: the
previous artifact is recorded and the snapshot paired with it is intact. -/
structure Generations (platform : Platform) (w : World) (state : DeploymentState)
    (current previous : Generation) : Prop where
  loaded : w.state = some state
  artifact : state.artifact = ⟨some current.artifact, some previous.artifact⟩
  currentRelease : state.currentRelease = current.release
  previousRelease : state.previousRelease = previous.release
  config : w.config = some current.config
  schema : state.config.schema = current.schema
  snapshot : ∃ operation, state.previousConfigSnapshot = some operation ∧
    Restorable platform operation w previous.config previous.schema

theorem Generations.configured {platform : Platform} {w : World} {state : DeploymentState}
    {current previous : Generation} (held : Generations platform w state current previous) :
    w.config ≠ none := by
  rw [held.config]
  simp

/-- What happens to a deployment without an order: its runtime is started or stopped, images
come and go. -/
structure Outside (w w' : World) : Prop where
  state : w'.state = w.state
  config : w'.config = w.config
  configSnapshots : w'.configSnapshots = w.configSnapshots

/-- The operation of a new order is unknown to the deployment. -/
structure Unseen (operation : OperationId) (w : World) : Prop where
  produced : ∀ state, w.state = some state → ¬state.producedBy operation
  snapshot : w.configSnapshots operation = ⟨none, none⟩

/-- A new order to roll back that was executed to its end, perhaps after attempts that were
cut off. -/
def RolledBack (platform : Platform) (order : RollbackOrder) (w w' : World) : Prop :=
  Unseen order.operationId w ∧ ∃ w₁ e completion,
    Relation.ReflTransGen (fun w w' => Outside w w' ∨
      ∃ e, e.platform = platform ∧ RollbackCut order e w w') w w₁ ∧
    e.platform = platform ∧ answerRollback order e w₁ = (.ok completion, w')

section attempts

variable {platform : Platform} {order : RollbackOrder} {state : DeploymentState}
  {current previous : Generation} {w₀ w w' : World}

/-- The config that a rollback from one generation to another saves and the one it writes. -/
def exchange (order : RollbackOrder) (current previous : Generation) : Staging :=
  ⟨order.operationId, current.schema, some previous.schema, none, some previous.config⟩

/-- What attempts that were cut off have left. -/
structure CutLeft (platform : Platform) (order : RollbackOrder) (current previous : Generation)
    (w₀ w : World) : Prop where
  state : w.state = w₀.state
  staging : StagingLeft platform (exchange order current previous) w₀ w

variable (held : Generations platform w₀ state current previous)
  (left : CutLeft platform order current previous w₀ w)

include held left

/-- Every attempt reads the previous generation from the snapshot it was left in. -/
theorem CutLeft.staged {plan : RollbackPlan} {object : RuntimeObject} {artifact : Digest}
    (admitted : RollbackAdmitted platform (rollbackJob order state artifact) w plan object) :
    plan.restored = previous.config ∧ plan.restoredSchema = previous.schema := by
  obtain ⟨operation, named, restorable⟩ := held.snapshot
  obtain ⟨operation', named', restorable'⟩ := admitted.paired
  have same : operation' = operation := by
    have found : state.previousConfigSnapshot = some operation' := named'
    rw [named] at found
    exact (Option.some.inj found).symm
  subst same
  exact Restorable.unique (StagingLeft.restorable left.staging restorable) restorable'

theorem CutLeft.exchange_eq {plan : RollbackPlan} {object : RuntimeObject} {artifact : Digest}
    (admitted : RollbackAdmitted platform (rollbackJob order state artifact) w plan object) :
    rollbackStaging (rollbackJob order state artifact) plan = exchange order current previous := by
  obtain ⟨restored, schema⟩ := left.staged held admitted
  rw [rollbackStaging, exchange, restored, schema]
  show Staging.mk _ state.config.schema _ _ _ = _
  rw [held.schema]
  rfl

theorem CutLeft.paired {plan : RollbackPlan} {object : RuntimeObject} {artifact : Digest}
    {o : Outcome Failure Unit}
    (admitted : RollbackAdmitted platform (rollbackJob order state artifact) w plan object)
    (paired : Paired platform (rollbackJob order state artifact) plan w o w') :
    CutLeft platform order current previous w₀ w' where
  state := by rw [paired.world]; exact left.state
  staging := StagingLeft.paired left.staging (absurd · held.configured)
    (left.exchange_eq held admitted) paired

omit held in
theorem CutLeft.outside (outside : Outside w w') :
    CutLeft platform order current previous w₀ w' where
  state := outside.state.trans left.state
  staging := left.staging.moved rfl rfl outside.config outside.configSnapshots

theorem CutLeft.cut {e : Attempt} (same : e.platform = platform) (cut : RollbackCut order e w w') :
    CutLeft platform order current previous w₀ w' := by
  obtain ⟨found, artifact, run, loaded, _, _, attempted, rfl⟩ := cut
  rw [left.state, held.loaded] at loaded
  cases loaded
  have ran : RanBack (rollbackJob order state artifact) e w .crashed run.world := by
    have := runRollback_ensures (rollbackJob order state artifact) e ⟨w, {}⟩
    rwa [Ensures, attempted] at this
  subst same
  generalize run.world = finished at ran ⊢
  cases ran with
  | refused => exact left
  | unpaired plan object admitted _ _ _ _ paired => exact left.paired held admitted paired
  | unstarted plan object admitted _ _ w₁ paired replacement _ _ _ replaced =>
    refine (left.paired held admitted paired).outside ?_
    rw [replaced.world]
    exact ⟨rfl, rfl, rfl⟩
  | started plan object admitted _ _ w₁ paired replacement _ w₂ replaced started _ =>
    refine (left.paired held admitted paired).outside ?_
    rw [replaced.world]
    exact ⟨rfl, rfl, rfl⟩

/-- The snapshot of a new order holds the config it started from. -/
theorem CutLeft.saves (unseen : Unseen order.operationId w₀)
    (snapshot : (exchange order current previous).Snapshots platform w (.ok ()) w') :
    Restorable platform order.operationId w' current.config current.schema := by
  obtain ⟨w₁, saved, same⟩ := left.staging.resumed (absurd · held.configured)
    (Snapshots.saves rfl snapshot)
  rcases saved with ⟨-, fresh⟩ | ⟨absent, -⟩
  · cases fresh with
    | bytesOnly _ unfinished => exact absurd rfl unfinished
    | resumed record bytes present =>
      have complete : (⟨none, none⟩ : ConfigSnapshot) = ⟨some bytes, some record⟩ :=
        unseen.snapshot.symm.trans present
      cases complete
    | saved bytes source =>
      have starting : w₀.config = some bytes := source
      rw [held.config] at starting
      cases starting
      have complete : w'.configSnapshots order.operationId = completeSnapshot platform
          order.operationId current.schema (some previous.schema) current.config := by
        rw [same]
        simp [setSnapshot, exchange]
      exact ⟨_, complete, rfl, rfl, rfl, rfl⟩
  · exact absurd absent held.configured

end attempts

section steps

variable {platform : Platform} {order : RollbackOrder} {state : DeploymentState}
  {current previous : Generation} {w w' : World}

/-- The document after a rollback, as the store makes it. -/
theorem applyRollbackHealthy_exchanged {expectedRevision : ℕ} {reference : Path}
    {schema : ConfigSchema} {operation : OperationId} {state' : DeploymentState}
    (fresh : ¬state.producedBy operation) {artifact : Digest}
    (recorded : state.artifact = ⟨some current.artifact, some artifact⟩)
    (h : applyRollbackHealthy state expectedRevision (some (reference, schema)) operation =
      .ok state') :
    state' = { state with
      artifact := ⟨some artifact, some current.artifact⟩
      currentRelease := state.previousRelease
      previousRelease := state.currentRelease
      previousConfigSnapshot := some operation
      config := state.config.advance reference schema
      activeHostOperation := some operation
      healthy := true } := by
  unfold applyRollbackHealthy at h
  rw [if_neg fresh] at h
  split_ifs at h
  simp only [recorded] at h
  cases h
  rfl

/-- A rollback exchanges the two generations of a deployment. -/
theorem rolledBack_exchanges (held : Generations platform w state current previous)
    (rolled : RolledBack platform order w w') :
    ∃ state', Generations platform w' state' previous current ∧
      state'.config.revision = state.config.revision + 1 ∧
      state'.previousConfigSnapshot = some order.operationId := by
  obtain ⟨unseen, w₁, e, completion, tries, same, answered⟩ := rolled
  have left : CutLeft platform order current previous w w₁ := by
    clear answered
    induction tries with
    | refl => exact ⟨rfl, .untouched rfl rfl⟩
    | tail _ next ih =>
      rcases next with outside | ⟨e', same', cut⟩
      · exact ih.outside outside
      · exact ih.cut held same' cut
  obtain ⟨found, loaded, produced | ⟨fresh, artifact, facts, run, -, -, -, ran, -, rfl⟩⟩ :=
    answerRollback_ok answered
  · rw [left.state, held.loaded] at loaded
    cases loaded
    exact absurd produced.1 (unseen.produced state held.loaded)
  rw [left.state, held.loaded] at loaded
  cases loaded
  subst same
  have phases : RanBack (rollbackJob order state artifact) e w₁ (.ok facts) run.world := by
    have := runRollback_ensures (rollbackJob order state artifact) e ⟨w₁, {}⟩
    rwa [Ensures, ran] at this
  generalize run.world = finished at phases ⊢
  cases phases with
  | refused _ unfinished => exact absurd rfl (unfinished facts)
  | unpaired _ _ _ _ unfinished => exact absurd rfl (unfinished facts)
  | unstarted _ _ _ _ unfinished => exact absurd rfl (unfinished facts)
  | started _ _ _ _ unfinished => exact absurd rfl (unfinished facts)
  | committed plan object admitted w₂ paired replacement planned w₃ replaced started present
      confirmed before after loaded' committed =>
    obtain ⟨restored, restoredSchema⟩ := left.staged held admitted
    have pair := left.exchange_eq held admitted
    cases paired with
    | unwritten unfinished => exact absurd rfl unfinished
    | written w₄ snapshot =>
      rw [pair] at snapshot
      have world := Snapshotted.world snapshot
      have moved := replaced.world
      have document : w₃.state = some state := by
        rw [moved, world]
        exact left.state.trans held.loaded
      rw [document] at loaded'
      cases loaded'
      obtain ⟨record, saved, rest⟩ := left.saves held unseen snapshot
      rw [applyRollbackHealthy_exchanged fresh held.artifact committed]
      refine ⟨_, {
        loaded := rfl
        artifact := rfl
        currentRelease := held.previousRelease
        previousRelease := held.currentRelease
        config := ?_
        schema := restoredSchema
        snapshot := ⟨order.operationId, rfl, record, ?_, rest⟩ }, rfl, rfl⟩
      · show w₃.config = _
        rw [moved, restored]
      · show w₃.configSnapshots _ = _
        rw [moved]
        exact saved

end steps


/-- Rollbacks of one deployment, one after the other. -/
inductive Rollbacks (platform : Platform) : ℕ → World → World → Prop
  | none (w : World) : Rollbacks platform 0 w w
  | next {n : ℕ} {w w₁ w₂ : World} (order : RollbackOrder) (rolls : Rollbacks platform n w w₁)
      (rolled : RolledBack platform order w₁ w₂) : Rollbacks platform (n + 1) w w₂

section inputs

open UpdateReplay (twoReleases undisturbed deployed deployedState deployedObject configToken
  nextConfigToken firstVersion secondVersion)

def firstGeneration : Generation := ⟨10, some firstVersion, [1], configToken⟩
def secondGeneration : Generation := ⟨11, some secondVersion, [2], nextConfigToken⟩

/-- The sample unit after an update by operation 2. -/
def updatedState : DeploymentState :=
  { deployedState .host with
    artifact := ⟨some 11, some 10⟩
    config := ⟨["etc", "nazoauth", "config.yaml"], nextConfigToken, 5⟩
    activeHostOperation := some 2
    currentRelease := some secondVersion
    previousRelease := some firstVersion
    previousConfigSnapshot := some 2 }

def updatedUnit : World :=
  { deployed .host with
    runtime := some ((deployedObject .host).withBinary 11)
    config := some [2]
    configSnapshots := fun operation => if operation = 2
      then completeSnapshot twoReleases 2 configToken (some nextConfigToken) [1]
      else ⟨none, none⟩
    state := some updatedState
    hostArtifacts := [11, 10] }

def rolledOnce : World := (answerRollback ⟨3, 5⟩ (undisturbed twoReleases) updatedUnit).2

def rolledTwice : World := (answerRollback ⟨4, 6⟩ (undisturbed twoReleases) rolledOnce).2

theorem updatedUnit_generations :
    Generations twoReleases updatedUnit updatedState secondGeneration firstGeneration where
  loaded := rfl
  artifact := rfl
  currentRelease := rfl
  previousRelease := rfl
  config := rfl
  schema := rfl
  snapshot := ⟨2, rfl, _, rfl, rfl, rfl, rfl, rfl⟩

end inputs

end NazoAuthCtl.RollbackReversal
