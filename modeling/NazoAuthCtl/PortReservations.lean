import NazoAuthCtl.StateReadback

/-!
# Loopback ports of one target state root

A bootstrap takes the lock of the ports, reads every document of the root and refuses a port
that one of them records. The other operations hold the lock of their own document only, and
an uninstall removes a document. No operation writes a document that it found unreadable, and
while one is unreadable no bootstrap is admitted.
-/

set_option autoImplicit false
set_option linter.all false

namespace NazoAuthCtl.PortReservations

open Checks DeploymentPaths StateDocument StateReadback
open TargetState (DeploymentId)

/-! ## Uninstalls -/

structure UninstallCompletion where
  schema : UInt32
  deploymentId : DeploymentId
  operationId : String
  revision : UInt64
  stateSha256 : String
  deriving DecidableEq, Repr

def uninstallCompletionSchema : UInt32 := 1
def maxCompletionBytes : ℕ := 4096

def UninstallCompletion.printer (completion : UninstallCompletion) : JsonText.Printer :=
  JsonText.object [("schema", JsonText.number completion.schema.toNat),
    ("deployment_id", JsonText.string completion.deploymentId),
    ("operation_id", JsonText.string completion.operationId),
    ("revision", JsonText.number completion.revision.toNat),
    ("state_sha256", JsonText.string completion.stateSha256)]

/-- The documents and the completion records under `deployments`. -/
structure Root where
  store : Store
  completions : List (DeploymentId × UninstallCompletion)

section platform

variable (platform : DocumentPlatform) (sha256 : ByteArray → String)

def completionDisplay (scope : DeploymentId) : String :=
  s!"{scopeDisplay platform scope}/uninstall-complete.json"

def readUninstallCompletion (root : Root) (scope : DeploymentId) :
    Except Failure (Option UninstallCompletion) :=
  match root.completions.lookup scope with
  | none => .ok none
  | some completion => do
    check ((completion.printer 0).utf8ByteSize ≤ maxCompletionBytes)
      (Failure.mk "STATE_RESET_REQUIRED" (s!"failed to read " ++
        s!"{completionDisplay platform scope}: uninstall completion exceeds the " ++
        s!"{maxCompletionBytes}-byte limit: {completionDisplay platform scope}"))
    check (completion.schema = uninstallCompletionSchema ∧
        completion.stateSha256.utf8ByteSize = 64 ∧ completion.stateSha256.toList.all isLowerHex)
      (Failure.mk "STATE_RESET_REQUIRED"
        s!"{completionDisplay platform scope} carries an invalid uninstall completion")
    pure (some completion)

def writeUninstallCompletion (root : Root) (scope : DeploymentId)
    (completion : UninstallCompletion) : Root :=
  { root with completions :=
      (scope, completion) :: root.completions.filter (·.1 ≠ scope) }

/-- `remove_file_durable` of `state.json`. -/
def removeStateFile (root : Root) (scope : DeploymentId) : Root :=
  { root with store := root.store.filter (·.1 ≠ scope) }

def completionMatches (completion : Option UninstallCompletion) (deploymentId : DeploymentId)
    (expectedRevision : UInt64) (operationId : String) : Prop :=
  ∃ found ∈ completion, found.deploymentId = deploymentId ∧ found.operationId = operationId ∧
    found.revision = expectedRevision

instance (completion : Option UninstallCompletion) (deploymentId : DeploymentId)
    (expectedRevision : UInt64) (operationId : String) :
    Decidable (completionMatches completion deploymentId expectedRevision operationId) := by
  unfold completionMatches
  infer_instance

def removeDeployment (root : Root) (deploymentId : DeploymentId) (expectedRevision : UInt64)
    (operationId : String) : Except Failure Root := do
  let scope ← deploymentScope deploymentId
  match root.store.lookup scope with
  | none =>
    let completion ← readUninstallCompletion platform root scope
    check (completionMatches completion deploymentId expectedRevision operationId)
      (unknownDeployment platform deploymentId)
    pure root
  | some bytes =>
    check (bytes.size ≤ maxStateBytes) (oversizedState platform scope)
    let state ← (readDeploymentState platform bytes).mapError (invalidState platform scope)
    check (state.config.revision = expectedRevision)
      (revisionMismatch deploymentId expectedRevision state.config.revision "")
    let completion := ⟨uninstallCompletionSchema, deploymentId, operationId,
      state.config.revision, sha256 bytes⟩
    pure (removeStateFile (writeUninstallCompletion root scope completion) scope)

def convergeUninstallCompletion (root : Root) (deploymentId : DeploymentId)
    (expectedRevision : UInt64) (operationId : String) : Except Failure (Root × Bool) := do
  let scope ← deploymentScope deploymentId
  match ← readUninstallCompletion platform root scope with
  | none => pure (root, false)
  | some completion =>
    if completionMatches (some completion) deploymentId expectedRevision operationId then
      match root.store.lookup scope with
      | none => pure (root, true)
      | some bytes =>
        if sha256 bytes = completion.stateSha256 then pure (removeStateFile root scope, true)
        else pure (root, true)
    else pure (root, false)

end platform

/-! ## Calls -/

inductive RootCall where
  | order (placed : Order)
  | remove (deploymentId : DeploymentId) (expectedRevision : UInt64) (operationId : String)
  | converge (deploymentId : DeploymentId) (expectedRevision : UInt64) (operationId : String)
  deriving DecidableEq, Repr

inductive Answer where
  | state (state : DeploymentState)
  | removed
  | converged (complete : Bool)
  deriving DecidableEq, Repr

section platform

variable (platform : DocumentPlatform) (sha256 : ByteArray → String)

def RootCall.run (root : Root) : RootCall → Except Failure (Root × Answer)
  | .order placed => do
    let (store, state) ← placed.run platform root.store
    pure ({ root with store := store }, .state state)
  | .remove deploymentId expectedRevision operationId => do
    let root ← removeDeployment platform sha256 root deploymentId expectedRevision operationId
    pure (root, .removed)
  | .converge deploymentId expectedRevision operationId => do
    let (root, complete) ← convergeUninstallCompletion platform sha256 root deploymentId
      expectedRevision operationId
    pure (root, .converged complete)

/-- A refused call has written nothing. -/
def RootCall.after (root : Root) (call : RootCall) : Root :=
  match call.run platform sha256 root with
  | .ok (root, _) => root
  | .error _ => root

/-- The roots of runs, when the parser reads back what a call answers with. -/
inductive Reached : Root → Prop
  | empty : Reached ⟨[], []⟩
  | call {root : Root} (call : RootCall) (reached : Reached root)
      (reads : ∀ after state, call.run platform sha256 root = .ok (after, .state state) →
        platform.parse (document platform state) = .ok state) :
      Reached (call.after platform sha256 root)

end platform

/-! ## Stored deployments -/

variable {platform : DocumentPlatform} {sha256 : ByteArray → String}

/-- The document of a deployment, whether it is valid and small enough or not. -/
def Stored (platform : DocumentPlatform) (store : Store) (deploymentId : DeploymentId)
    (state : DeploymentState) : Prop :=
  ∃ bytes, store.lookup deploymentId = some bytes ∧ platform.parse bytes = .ok state

def Disjoint (platform : DocumentPlatform) (store : Store) : Prop :=
  ∀ first second firstState secondState, Stored platform store first firstState →
    Stored platform store second secondState → first ≠ second →
    firstState.runtime.loopbackPort ≠ secondState.runtime.loopbackPort

theorem loaded_stored {store : Store} {deploymentId : DeploymentId} {state : DeploymentState}
    (loaded : loadExisting platform store deploymentId = .ok state) :
    Stored platform store deploymentId state := by
  obtain ⟨_, bytes, held, _, reads, _⟩ := loadExisting_ok.mp loaded
  exact ⟨bytes, held, reads⟩

theorem stored_persist {store : Store} {scope deploymentId : DeploymentId}
    {next state : DeploymentState} (reads : platform.parse (document platform next) = .ok next)
    (stored : Stored platform (persist platform store scope next) deploymentId state) :
    (deploymentId = scope ∧ state = next) ∨
      (deploymentId ≠ scope ∧ Stored platform store deploymentId state) := by
  obtain ⟨bytes, held, parsed⟩ := stored
  by_cases own : deploymentId = scope
  · have written : (persist platform store scope next).lookup scope =
        some (document platform next) := by simp [persist]
    rw [own, written] at held
    cases held
    rw [reads] at parsed
    cases parsed
    exact Or.inl ⟨own, rfl⟩
  · rw [lookup_persist_ne next own] at held
    exact Or.inr ⟨own, bytes, held, parsed⟩

/-- A document whose port no other deployment has keeps the ports disjoint. -/
theorem disjoint_persist {store : Store} {scope : DeploymentId} {next : DeploymentState}
    (disjoint : Disjoint platform store)
    (reads : platform.parse (document platform next) = .ok next)
    (fresh : ∀ deploymentId state, Stored platform store deploymentId state →
      deploymentId ≠ scope → state.runtime.loopbackPort ≠ next.runtime.loopbackPort) :
    Disjoint platform (persist platform store scope next) := by
  intro first second firstState secondState firstStored secondStored distinct
  rcases stored_persist reads firstStored with ⟨rfl, rfl⟩ | ⟨firstOther, firstKept⟩
  · rcases stored_persist reads secondStored with ⟨rfl, rfl⟩ | ⟨secondOther, secondKept⟩
    · exact absurd rfl distinct
    · exact (fresh second secondState secondKept secondOther).symm
  · rcases stored_persist reads secondStored with ⟨rfl, rfl⟩ | ⟨secondOther, secondKept⟩
    · exact fresh first firstState firstKept firstOther
    · exact disjoint first second firstState secondState firstKept secondKept distinct

theorem lookup_filter_self (store : Store) (scope : DeploymentId) :
    (store.filter (·.1 ≠ scope)).lookup scope = none := by
  rw [List.lookup_eq_none_iff]
  intro entry member
  have kept := (List.mem_filter.mp member).2
  exact bne_iff_ne.mpr (Ne.symm (of_decide_eq_true kept))

theorem stored_filter {store : Store} {scope deploymentId : DeploymentId}
    {state : DeploymentState}
    (stored : Stored platform (store.filter (·.1 ≠ scope)) deploymentId state) :
    Stored platform store deploymentId state := by
  obtain ⟨bytes, held, parsed⟩ := stored
  by_cases own : deploymentId = scope
  · rw [own, lookup_filter_self] at held
    cases held
  · rw [lookup_filter_ne store own] at held
    exact ⟨bytes, held, parsed⟩

theorem disjoint_filter {store : Store} (scope : DeploymentId)
    (disjoint : Disjoint platform store) :
    Disjoint platform (store.filter (·.1 ≠ scope)) := by
  intro first second firstState secondState firstStored secondStored distinct
  exact disjoint first second firstState secondState (stored_filter firstStored)
    (stored_filter secondStored) distinct

/-! ## The sweep -/

/-- A document that does not read fails the sweep with another code than a missing one. -/
theorem readState_held {store : Store} {scope : DeploymentId} {bytes : ByteArray}
    {failure : Failure} (held : store.lookup scope = some bytes)
    (refused : readState platform store scope = .error failure) :
    failure.code = "STATE_RESET_REQUIRED" := by
  unfold readState at refused
  by_cases large : maxStateBytes < bytes.size
  · simp only [held, if_pos large, Except.error.injEq] at refused
    rw [← refused]
    rfl
  · simp only [held, if_neg large] at refused
    cases read : readDeploymentState platform bytes with
    | ok state =>
      rw [read] at refused
      cases refused
    | error error =>
      rw [read] at refused
      cases refused
      rfl

theorem readState_parsed {store : Store} {scope : DeploymentId} {bytes : ByteArray}
    {state : DeploymentState} (held : store.lookup scope = some bytes)
    (read : readState platform store scope = .ok state) : platform.parse bytes = .ok state := by
  unfold readState at read
  by_cases large : maxStateBytes < bytes.size
  · simp [held, large] at read
  · simp only [held, if_neg large, mapError_ok, readDeploymentState, bind_ok, exists_unit,
      pure_ok] at read
    obtain ⟨parsed, reads, _, rfl⟩ := read
    exact reads

theorem mem_of_lookup {store : Store} {scope : DeploymentId} {bytes : ByteArray}
    (held : store.lookup scope = some bytes) : scope ∈ store.map Prod.fst := by
  obtain ⟨before, later, rfl, _⟩ := List.lookup_eq_some_iff.mp held
  simp

theorem listEntries_complete {store : Store} {scopes : List DeploymentId}
    {states : List DeploymentState} {scope : DeploymentId} {state : DeploymentState}
    (listed : listEntries platform store scopes = .ok states) (member : scope ∈ scopes)
    (stored : Stored platform store scope state) : state ∈ states := by
  obtain ⟨bytes, held, parsed⟩ := stored
  induction scopes generalizing states with
  | nil => cases member
  | cons entry rest ih =>
    rw [listEntries] at listed
    cases read : readState platform store entry with
    | ok found =>
      simp only [read, bind_ok, pure_ok] at listed
      obtain ⟨_, _, others, listed, rfl⟩ := listed
      by_cases own : scope = entry
      · rw [← own] at read
        rw [readState_parsed held read] at parsed
        cases parsed
        exact List.mem_cons_self
      · have later := (List.mem_cons.mp member).resolve_left own
        exact List.mem_cons_of_mem found (ih listed later)
    | error failure =>
      simp only [read] at listed
      by_cases missing : failure.code = "DEPLOYMENT_UNKNOWN"
      · rw [if_pos missing] at listed
        by_cases own : scope = entry
        · rw [← own] at read
          rw [readState_held held read] at missing
          exact absurd missing (by decide)
        · exact ih listed ((List.mem_cons.mp member).resolve_left own)
      · rw [if_neg missing] at listed
        cases listed

theorem listDeployments_complete {store : Store} {states : List DeploymentState}
    {scope : DeploymentId} {state : DeploymentState}
    (listed : listDeployments platform store = .ok states)
    (stored : Stored platform store scope state) : state ∈ states := by
  simp only [listDeployments, bind_ok, pure_ok] at listed
  obtain ⟨unsorted, listed, rfl⟩ := listed
  obtain ⟨bytes, held, parsed⟩ := stored
  have member := listEntries_complete listed (mem_of_lookup held) ⟨bytes, held, parsed⟩
  exact List.mem_mergeSort.mpr member

/-! ## The operations -/

theorem updateLineage_runtime (state : DeploymentState) (update : UpdateCommit) (live : Bool) :
    (state.updateLineage update live).runtime = state.runtime := by
  unfold DeploymentState.updateLineage
  dsimp only
  split_ifs <;> rfl

section changes

variable {deploymentId : DeploymentId} {operationId : String} {clock : Clock}
  {state : DeploymentState} {result : Option DeploymentState}

theorem configChange_runtime {expected : UInt64} {reference schema : String}
    (accepted : configChange deploymentId expected reference schema operationId clock state =
      .ok result) : (result.getD state).runtime = state.runtime := by
  unfold configChange at accepted
  by_cases produced : state.producedBy operationId
  · rw [if_pos produced, pure_ok] at accepted
    rw [← accepted, Option.getD_none]
  · simp only [if_neg produced, bind_ok, pure_ok] at accepted
    obtain ⟨_, _, config, _, rfl⟩ := accepted
    rfl

theorem migrationChange_runtime {expected : UInt64} {targetArtifact : String}
    (accepted : migrationChange platform deploymentId expected operationId targetArtifact clock
      state = .ok result) : (result.getD state).runtime = state.runtime := by
  simp only [migrationChange, bind_ok] at accepted
  obtain ⟨_, _, accepted⟩ := accepted
  cases recorded : state.appliedMigration with
  | none =>
    simp only [recorded, bind_ok, pure_ok] at accepted
    obtain ⟨_, _, rfl⟩ := accepted
    rfl
  | some existing =>
    by_cases same : existing.operationId = operationId ∧ existing.targetArtifact = targetArtifact
    · simp only [recorded, if_pos same, pure_ok] at accepted
      rw [← accepted, Option.getD_none]
    · simp only [recorded, if_neg same] at accepted
      cases accepted

theorem updateChange_runtime {expected : UInt64} {update : UpdateCommit} {live : Bool}
    (accepted : updateChange deploymentId expected update live clock state = .ok result) :
    (result.getD state).runtime = state.runtime := by
  unfold updateChange at accepted
  by_cases produced : state.producedBy update.operationId
  · rw [if_pos produced, pure_ok] at accepted
    rw [← accepted, Option.getD_none]
  · simp only [if_neg produced, bind_ok, pure_ok] at accepted
    obtain ⟨_, _, _, _, _, _, _, _, config, _, rfl⟩ := accepted
    exact updateLineage_runtime state update live

theorem recoveryChange_runtime {expected : UInt64} {facts : RecoveryFacts}
    (accepted : recoveryChange platform deploymentId expected facts operationId clock state =
      .ok result) : (result.getD state).runtime = state.runtime := by
  unfold recoveryChange at accepted
  by_cases produced : state.producedBy operationId
  · rw [if_pos produced, pure_ok] at accepted
    rw [← accepted, Option.getD_none]
  · simp only [if_neg produced, bind_ok, pure_ok] at accepted
    obtain ⟨_, _, _, _, _, _, _, _, _, _, _, _, rfl⟩ := accepted
    rfl

theorem rollbackChange_runtime {expected : UInt64} {config : Option (String × String)}
    (accepted : rollbackChange deploymentId expected config operationId clock state =
      .ok result) : (result.getD state).runtime = state.runtime := by
  unfold rollbackChange at accepted
  by_cases produced : state.producedBy operationId
  · rw [if_pos produced, pure_ok] at accepted
    rw [← accepted, Option.getD_none]
  · simp only [if_neg produced, bind_ok] at accepted
    obtain ⟨_, _, _, _, accepted⟩ := accepted
    cases saved : state.artifact.previous with
    | none =>
      rw [saved] at accepted
      cases accepted
    | some previous =>
      simp only [saved, bind_ok, pure_ok] at accepted
      obtain ⟨next, _, rfl⟩ := accepted
      rfl

/-- No operation on an existing state moves its port. -/
theorem change_runtime {mutation : Mutation}
    (accepted : mutation.change platform deploymentId operationId clock state = .ok result) :
    (result.getD state).runtime = state.runtime := by
  cases mutation with
  | applyConfig expected reference schema => exact configChange_runtime accepted
  | recordMigrationApplied expected targetArtifact => exact migrationChange_runtime accepted
  | applyUpdateHealthyFromLive expected snapshot artifact release config live =>
    exact updateChange_runtime accepted
  | applyRecovery expected facts => exact recoveryChange_runtime accepted
  | applyRollbackHealthy expected config => exact rollbackChange_runtime accepted

end changes

section bootstrap

variable {store after : Store} {deploymentId : DeploymentId} {params : BootstrapParams}
  {operationId : String} {localHealth : HealthRecord} {appliedAt : Timestamp}
  {existing state : DeploymentState}

theorem bootstrap_admitted
    (accepted : bootstrapWithHealth platform store deploymentId params operationId localHealth
      appliedAt = .ok (after, state)) :
    after = store ∨ (after = persist platform store deploymentId state ∧
      ∃ states, listDeployments platform store = .ok states ∧
        ∀ owner ∈ states, owner.runtime.loopbackPort ≠ state.runtime.loopbackPort) := by
  simp only [bootstrapWithHealth, bind_ok, deploymentScope_ok] at accepted
  obtain ⟨scope, ⟨_, rfl⟩, accepted⟩ := accepted
  cases live : loadExisting platform store scope with
  | ok existing =>
    rw [live] at accepted
    dsimp only at accepted
    split_ifs at accepted
    · cases accepted
      exact Or.inl rfl
  | error failure =>
    simp only [live, bind_ok] at accepted
    obtain ⟨_, _, states, listed, accepted⟩ := accepted
    cases taken : states.find? (·.runtime.loopbackPort = params.runtime.loopbackPort) with
    | some owner =>
      rw [taken] at accepted
      cases accepted
    | none =>
      simp only [taken, bind_ok, pure_ok] at accepted
      obtain ⟨config, _, _, _, same⟩ := accepted
      cases same
      refine Or.inr ⟨rfl, states, listed, ?_⟩
      intro owner member
      exact of_decide_eq_false (Bool.eq_false_iff.mpr (List.find?_eq_none.mp taken owner member))

theorem bootstrap_replayed (loaded : loadExisting platform store deploymentId = .ok existing)
    (produced : existing.producedBy operationId) :
    bootstrapWithHealth platform store deploymentId params operationId localHealth appliedAt =
      if existing.localHealth.healthy = localHealth.healthy then .ok (store, existing)
      else .error ⟨"DEPLOYMENT_EXISTS", s!"deployment '{deploymentId}' holds an incomplete " ++
        s!"state for operation {operationId}"⟩ := by
  have legal := deploymentScope_ok.mpr ⟨(loadExisting_ok.mp loaded).1, rfl⟩
  rw [bootstrapWithHealth, legal]
  simp only [bind, Except.bind]
  rw [loaded]
  exact if_pos produced

end bootstrap

theorem order_bootstrap {placed : Order} {params : BootstrapParams} {healthy : Bool}
    (called : placed.call = .bootstrap params healthy) (store : Store) :
    placed.run platform store = bootstrapWithHealth platform store placed.deploymentId params
      placed.operationId (healthRecord healthy placed.clock) placed.clock.appliedAt := by
  rw [Order.run, called]
  cases healthy <;> rfl

theorem healthRecord_healthy (healthy : Bool) (clock : Clock) :
    (healthRecord healthy clock).healthy = healthy := by
  cases healthy <;> rfl

theorem order_disjoint {store after : Store} {placed : Order} {state : DeploymentState}
    (disjoint : Disjoint platform store)
    (accepted : placed.run platform store = .ok (after, state))
    (reads : platform.parse (document platform state) = .ok state) :
    Disjoint platform after := by
  cases called : placed.call with
  | bootstrap params healthy =>
    rw [order_bootstrap called] at accepted
    rcases bootstrap_admitted accepted with rfl | ⟨rfl, states, listed, free⟩
    · exact disjoint
    · refine disjoint_persist disjoint reads fun deploymentId stored held _ => ?_
      exact free stored (listDeployments_complete listed held)
  | mutate mutation =>
    have committed : commit platform store placed.deploymentId
        (mutation.change platform placed.deploymentId placed.operationId placed.clock) =
        .ok (after, state) := by
      rw [← accepted, Order.run, called]
    obtain ⟨live, result, loaded, changed, rfl, rfl⟩ := commit_ok committed
    cases result with
    | none => exact disjoint
    | some next =>
      have kept : next.runtime = live.runtime := change_runtime changed
      refine disjoint_persist disjoint reads fun deploymentId stored held other => ?_
      show stored.runtime.loopbackPort ≠ next.runtime.loopbackPort
      rw [kept]
      exact disjoint _ _ _ _ held (loaded_stored loaded) other

/-! ## Removals -/

theorem removeDeployment_store {root after : Root} {deploymentId : DeploymentId}
    {expectedRevision : UInt64} {operationId : String}
    (accepted : removeDeployment platform sha256 root deploymentId expectedRevision operationId =
      .ok after) :
    after.store = root.store ∨ after.store = root.store.filter (·.1 ≠ deploymentId) := by
  simp only [removeDeployment, bind_ok, deploymentScope_ok] at accepted
  obtain ⟨scope, ⟨_, rfl⟩, accepted⟩ := accepted
  cases held : root.store.lookup scope with
  | none =>
    simp only [held, bind_ok, pure_ok] at accepted
    obtain ⟨_, _, _, _, rfl⟩ := accepted
    exact Or.inl rfl
  | some bytes =>
    simp only [held, bind_ok, pure_ok] at accepted
    obtain ⟨_, _, state, _, _, _, rfl⟩ := accepted
    exact Or.inr rfl

theorem convergeUninstallCompletion_store {root after : Root} {deploymentId : DeploymentId}
    {expectedRevision : UInt64} {operationId : String} {complete : Bool}
    (accepted : convergeUninstallCompletion platform sha256 root deploymentId expectedRevision
      operationId = .ok (after, complete)) :
    after.store = root.store ∨ after.store = root.store.filter (·.1 ≠ deploymentId) := by
  simp only [convergeUninstallCompletion, bind_ok, deploymentScope_ok] at accepted
  obtain ⟨scope, ⟨_, rfl⟩, found, _, accepted⟩ := accepted
  cases found with
  | none =>
    cases accepted
    exact Or.inl rfl
  | some completion =>
    dsimp only at accepted
    by_cases own : completionMatches (some completion) scope expectedRevision operationId
    · rw [if_pos own] at accepted
      cases held : root.store.lookup scope with
      | none =>
        rw [held] at accepted
        cases accepted
        exact Or.inl rfl
      | some bytes =>
        rw [held] at accepted
        dsimp only at accepted
        by_cases same : sha256 bytes = completion.stateSha256
        · rw [if_pos same] at accepted
          cases accepted
          exact Or.inr rfl
        · rw [if_neg same] at accepted
          cases accepted
          exact Or.inl rfl
    · rw [if_neg own] at accepted
      cases accepted
      exact Or.inl rfl

theorem removal_disjoint {root after : Root} {scope : DeploymentId}
    (disjoint : Disjoint platform root.store)
    (removed : after.store = root.store ∨ after.store = root.store.filter (·.1 ≠ scope)) :
    Disjoint platform after.store := by
  rcases removed with same | same
  · rw [same]
    exact disjoint
  · rw [same]
    exact disjoint_filter scope disjoint

/-! ## Runs -/

theorem call_disjoint {root : Root} (call : RootCall) (disjoint : Disjoint platform root.store)
    (reads : ∀ after state, call.run platform sha256 root = .ok (after, .state state) →
      platform.parse (document platform state) = .ok state) :
    Disjoint platform (call.after platform sha256 root).store := by
  unfold RootCall.after
  cases ran : call.run platform sha256 root with
  | error failure => exact disjoint
  | ok answer =>
    cases call with
    | order placed =>
      simp only [RootCall.run, bind_ok, pure_ok] at ran
      obtain ⟨⟨store, state⟩, accepted, rfl⟩ := ran
      refine order_disjoint disjoint accepted (reads { root with store := store } state ?_)
      simp only [RootCall.run, accepted]
      rfl
    | remove deploymentId expectedRevision operationId =>
      simp only [RootCall.run, bind_ok, pure_ok] at ran
      obtain ⟨after, accepted, rfl⟩ := ran
      exact removal_disjoint disjoint (removeDeployment_store accepted)
    | converge deploymentId expectedRevision operationId =>
      simp only [RootCall.run, bind_ok, pure_ok] at ran
      obtain ⟨⟨after, complete⟩, accepted, rfl⟩ := ran
      exact removal_disjoint disjoint (convergeUninstallCompletion_store accepted)

theorem reached_disjoint {root : Root} (reached : Reached platform sha256 root) :
    Disjoint platform root.store := by
  induction reached with
  | empty =>
    intro first second firstState secondState firstStored
    obtain ⟨bytes, held, _⟩ := firstStored
    cases held
  | call call _ reads ih => exact call_disjoint call ih reads

/-- What a root promises to the bootstraps that are placed on it. -/
structure Reserved (platform : DocumentPlatform) (sha256 : ByteArray → String) (root : Root) :
    Prop where
  disjoint : Disjoint platform root.store
  refused : ∀ placed params healthy failure, placed.call = .bootstrap params healthy →
    (RootCall.order placed).run platform sha256 root = .error failure →
    (RootCall.order placed).after platform sha256 root = root
  replayed : ∀ placed params healthy existing, placed.call = .bootstrap params healthy →
    loadExisting platform root.store placed.deploymentId = .ok existing →
    existing.producedBy placed.operationId →
    ((RootCall.order placed).run platform sha256 root = .ok (root, .state existing) ↔
      existing.localHealth.healthy = healthy) ∧
    (RootCall.order placed).after platform sha256 root = root

def installedRoot (issuer : String) : Root :=
  ⟨persist (readsOnly (exampleState issuer)) [] "auth" (exampleState issuer), []⟩

theorem installed_run {issuer : String} (named : "https://".toList <+: issuer.toList) :
    (RootCall.order (exampleOrder issuer)).run (readsOnly (exampleState issuer)) sha256 ⟨[], []⟩ =
      .ok (installedRoot issuer, .state (exampleState issuer)) := by
  rw [RootCall.run, exampleOrder_run named]
  rfl

theorem installed_reached {issuer : String} (named : "https://".toList <+: issuer.toList) :
    Reached (readsOnly (exampleState issuer)) sha256 (installedRoot issuer) := by
  have ran := @installed_run sha256 issuer named
  have reached := @Reached.call (readsOnly (exampleState issuer)) sha256 _
    (.order (exampleOrder issuer)) .empty fun after state answered => by
      rw [ran] at answered
      cases answered
      exact readsOnly_reads _
  rw [RootCall.after, ran] at reached
  exact reached

theorem installed_loaded : loadExisting (readsOnly (exampleState "https://issuer.example"))
    (installedRoot "https://issuer.example").store "auth" =
      .ok (exampleState "https://issuer.example") := by
  refine (load_persisted (by decide) (readsOnly_reads _)).mpr ⟨?_, exampleState_valid (by decide)⟩
  decide +kernel

/-- The same operation as `bootstrap` after `bootstrap_healthy` has stored its state. -/
def reducedOrder : Order :=
  { exampleOrder "https://issuer.example" with
    call := .bootstrap (exampleParams "https://issuer.example") false }

end NazoAuthCtl.PortReservations
