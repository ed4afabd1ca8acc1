import NazoAuthCtl.JournalDispatch
import NazoAuthCtl.TargetWorld

/-!
# Uninstalls and the generations of a deployment id

A deployment id can be installed again after it was uninstalled. What keeps a
late retry of the old uninstall away from the new generation is the journal line
of the old one and, once that line has aged out, the completion record beside
the state document. There is one such record for a deployment id, and every
uninstall writes it.
-/

set_option autoImplicit false
set_option linter.all false

namespace NazoAuthCtl.UninstallGenerations

open FaultProgram TargetState TargetWorld JournalCompaction JournaledCalls JournalDispatch

/-- `state.json`: the state and the times it records. -/
structure Document where
  state : DeploymentState
  times : List ℤ
  deriving DecidableEq, Repr

structure UninstallCompletion where
  deploymentId : DeploymentId
  operationId : OperationId
  revision : ℕ
  stateSha256 : Digest
  deriving DecidableEq, Repr

inductive EntryKind where
  | directory
  | file
  | other
  deriving DecidableEq, Repr

/-- The host as the operations on one deployment id see it. -/
structure Host where
  document : Option Document
  completion : Option UninstallCompletion
  runtime : Option RuntimeObject
  entries : Path → Option EntryKind

inductive CompletionBody where
  | stateMutateApplied (revision : ℕ)
  | other (body : Bytes)
  deriving DecidableEq, Repr

inductive DeletionEffect where
  | lockConvergence
  | readCompletion
  | hashDocument
  | removeConverged
  | loadState
  | privilegeGate
  | inspectRuntime
  | stopRuntime
  | removeRuntime
  | inspectEntry (path : Path)
  | prepareTree (path : Path)
  | removeTree (path : Path)
  | inspectChain (path : Path)
  | unlink (path : Path)
  | syncParent (path : Path)
  | lockRemoval
  | readDocument
  | readProof
  | writeCompletion
  | removeDocument
  deriving DecidableEq, Repr

structure Deletion where
  faults : DeletionEffect → Fault String
  /-- The subtrees of a directory that are gone when its removal fails or is lost. -/
  partly : Path → Path → Bool

/-- A failure by the code it answers with. -/
structure Refusal where
  code : String
  detail : String
  deriving DecidableEq, Repr

abbrev Deleting := Program Deletion Host Refusal

variable {α : Type}

def deleting (label : DeletionEffect) (code : String) (body : Deleting α) : Deleting α :=
  Program.effect (fun deletion => deletion.faults label) (fun detail => ⟨code, detail⟩) body

structure UninstallOrder where
  operationId : OperationId
  canonicalHash : Digest
  deploymentId : DeploymentId
  expectedRevision : ℕ
  deriving DecidableEq, Repr

def UninstallOrder.operation (order : UninstallOrder) : HostOperation where
  operationId := order.operationId
  canonicalHash := order.canonicalHash
  body := .stateMutate .uninstall

/-- `completion_matches`. -/
def completionMatches (completion : UninstallCompletion) (order : UninstallOrder) : Prop :=
  completion.deploymentId = order.deploymentId ∧ completion.operationId = order.operationId ∧
    completion.revision = order.expectedRevision

instance (completion : UninstallCompletion) (order : UninstallOrder) :
    Decidable (completionMatches completion order) :=
  inferInstanceAs (Decidable (_ ∧ _))

section deletion

variable (sha256 : Document → Digest) (order : UninstallOrder)

/-- `converge_uninstall_completion`. -/
def convergeUninstallCompletion : Deleting Bool := do
  deleting .lockConvergence "DEPLOYMENT_UNKNOWN" (pure ())
  let completion ← deleting .readCompletion "STATE_RESET_REQUIRED"
    (do pure (← Program.get).completion)
  match completion with
  | none => pure false
  | some completion =>
    if completionMatches completion order then do
      let document ← deleting .hashDocument "STATE_RESET_REQUIRED"
        (do pure (← Program.get).document)
      match document with
      | none => pure true
      | some document => do
        Program.onlyIf (sha256 document = completion.stateSha256)
          (deleting .removeConverged "DEPLOYMENT_UNKNOWN"
            (Program.modify fun host => { host with document := none }))
        pure true
    else pure false

/-- `load_existing`. -/
def loadExisting : Deleting Document :=
  deleting .loadState "STATE_RESET_REQUIRED" do
    match (← Program.get).document with
    | some document => pure document
    | none => Program.throw ⟨"DEPLOYMENT_UNKNOWN", "no DeploymentState exists"⟩

/-- The runtime object goes if its label says that it belongs to the deployment. -/
def deleteRuntime (kind : RuntimeBackendKind) : Deleting Unit := do
  let runtime ← deleting .inspectRuntime "RUNTIME_START_FAILED"
    (do pure (← Program.get).runtime)
  match runtime with
  | none => pure ()
  | some object => do
    Program.require (kind.isContainer = true →
        object.labels.lookup ownershipLabel = some order.deploymentId)
      ⟨"OBJECT_IDENTITY_MISMATCH", "the runtime object exists without this deployment's " ++
        "ownership label; refusing to remove a possibly foreign object"⟩
    Program.onlyIf (kind.isContainer = true)
      (deleting .stopRuntime "RUNTIME_START_FAILED"
        (Program.modify fun host => { host with runtime := host.runtime.map (·.halted) }))
    deleting .removeRuntime "RUNTIME_START_FAILED"
      (Program.modify fun host => { host with runtime := none })

abbrev Entries := Path → Option EntryKind

def dropTree (entries : Entries) (path : Path) : Entries := fun other =>
  if path <+: other then none else entries other

/-- Some subtrees below the path are gone. -/
def dropPart (entries : Entries) (path : Path) (gone : Path → Bool) : Entries := fun other =>
  if ∃ root ∈ other.inits, path <+: root ∧ root ≠ path ∧ gone root = true then none
  else entries other

def dropEntry (entries : Entries) (path : Path) : Entries := fun other =>
  if other = path then none else entries other

/-- Every directory above the path that exists is a real one. -/
def chained (entries : Entries) (path : Path) : Prop :=
  ∀ above ∈ path.dropLast.inits, entries above = none ∨ entries above = some .directory

instance (entries : Entries) (path : Path) : Decidable (chained entries path) :=
  inferInstanceAs (Decidable (∀ above ∈ path.dropLast.inits, _))

/-- `remove_dir_all`, which is not atomic: the directory itself goes last. -/
def removeDirAll (path : Path) : Deleting Unit := fun deletion host =>
  match deletion.faults (.removeTree path) with
  | .none => (.ok (), { host with entries := dropTree host.entries path })
  | .fail detail =>
    (.error ⟨"OPERATION_INVALID", detail⟩,
      { host with entries := dropPart host.entries path (deletion.partly path) })
  | .crash =>
    (.crashed, { host with entries := dropPart host.entries path (deletion.partly path) })

def makeTreeRemovable (path : Path) : Deleting Unit := do
  let host ← Program.get
  Program.require (chained host.entries path)
    ⟨"OPERATION_INVALID", "failed to prepare managed tree"⟩
  deleting (.prepareTree path) "OPERATION_INVALID" (pure ())

/-- `fs::remove_file`, with whether there was something to remove. -/
def unlinked (path : Path) : Deleting Bool := do
  match (← Program.get).entries path with
  | none => pure false
  | some .directory =>
    Program.throw (Refusal.mk "OPERATION_INVALID" "failed to remove: is a directory")
  | some _ => do
    Program.modify fun host => { host with entries := dropEntry host.entries path }
    pure true

def removeFileDurable (path : Path) : Deleting Unit := do
  deleting (.inspectChain path) "OPERATION_INVALID" (pure ())
  let host ← Program.get
  Program.require (chained host.entries path)
    ⟨"OPERATION_INVALID", "directory path contains a symlink or no directory"⟩
  let removed ← deleting (.unlink path) "OPERATION_INVALID" (unlinked path)
  Program.onlyIf (removed = true) (deleting (.syncParent path) "OPERATION_INVALID" (pure ()))

/-- `safe_managed_path`. A path is given by its components from the root; a locator that is not
absolute leads nowhere and has none. -/
def safeManagedPath (path : Path) : Prop :=
  1 < path.length ∧ ".." ∉ path

instance (path : Path) : Decidable (safeManagedPath path) :=
  inferInstanceAs (Decidable (_ ∧ _))

/-- The path with a suffix to its last component. -/
def withSuffix (suffix : String) : Path → Path
  | [] => [suffix]
  | [name] => [name ++ suffix]
  | parent :: rest => parent :: withSuffix suffix rest

def ownershipMarker (path : Path) : Path :=
  withSuffix ".nazoauth-owned" path

/-- `delete_managed_resource`. -/
def deleteManagedResource (kind : String) (locator : Path) : Deleting Unit :=
  if kind = "directory" then do
    Program.require (safeManagedPath locator)
      ⟨"OBJECT_IDENTITY_MISMATCH", "refusing to delete directory: not a deep absolute path"⟩
    let entry ← deleting (.inspectEntry locator) "OPERATION_INVALID"
      (do pure ((← Program.get).entries locator))
    match entry with
    | none => pure ()
    | some .directory => do
      makeTreeRemovable locator
      removeDirAll locator
    | some _ =>
      Program.throw (Refusal.mk "OBJECT_IDENTITY_MISMATCH"
        "refusing to delete directory: locator is not a real directory")
  else if kind = "file" then do
    Program.require (safeManagedPath locator)
      ⟨"OBJECT_IDENTITY_MISMATCH", "refusing to delete file: not a deep absolute path"⟩
    let entry ← deleting (.inspectEntry locator) "OPERATION_INVALID"
      (do pure ((← Program.get).entries locator))
    match entry with
    | none => removeFileDurable (ownershipMarker locator)
    | some .file => do
      removeFileDurable locator
      removeFileDurable (ownershipMarker locator)
    | some _ =>
      Program.throw (Refusal.mk "OBJECT_IDENTITY_MISMATCH"
        "refusing to delete file: locator is not a real file")
  else Program.throw
    ⟨"OBJECT_IDENTITY_MISMATCH", "managed resource kind has no deletion procedure; extend the " ++
      "vocabulary explicitly before deleting such objects"⟩

/-- The resources an uninstall deletes itself. -/
def deletable (resource : Resource) : Bool :=
  resource.ownership = .managed ∧ resource.scope = .deployment ∧ resource.kind ≠ "container"

def deleteResources : List Resource → Deleting Unit
  | [] => pure ()
  | resource :: rest => do
    deleteManagedResource resource.kind resource.locator
    deleteResources rest

/-- `remove_deployment`. -/
def removeDeployment : Deleting Unit := do
  deleting .lockRemoval "DEPLOYMENT_UNKNOWN" (pure ())
  let document ← deleting .readDocument "STATE_RESET_REQUIRED"
    (do pure (← Program.get).document)
  match document with
  | none => do
    let completion ← deleting .readProof "STATE_RESET_REQUIRED"
      (do pure (← Program.get).completion)
    Program.require (∃ proof ∈ completion, completionMatches proof order)
      ⟨"DEPLOYMENT_UNKNOWN", "no DeploymentState exists"⟩
  | some document => do
    Program.require (document.state.config.revision = order.expectedRevision)
      ⟨"CONFIG_REVISION_MISMATCH", "the target holds another config revision"⟩
    deleting .writeCompletion "DEPLOYMENT_UNKNOWN"
      (Program.modify fun host => { host with
        completion := some ⟨order.deploymentId, order.operationId,
          document.state.config.revision, sha256 document⟩ })
    deleting .removeDocument "DEPLOYMENT_UNKNOWN"
      (Program.modify fun host => { host with document := none })

/-- `HostDeletionExecutor::execute_deletion`. -/
def executeDeletion (state : DeploymentState) : Deleting Unit := do
  deleting .privilegeGate "PRIVILEGE_REQUIRED" (pure ())
  deleteRuntime order state.runtime.kind
  deleteResources (state.resources.filter fun resource => deletable resource)
  removeFileDurable state.config.reference
  removeFileDurable (ownershipMarker state.config.reference)
  removeDeployment sha256 order

/-- `answer_uninstall`. -/
def answerUninstall : Deleting CompletionBody := do
  let document ← loadExisting
  Program.require (document.state.config.revision = order.expectedRevision)
    ⟨"CONFIG_REVISION_MISMATCH", "uninstall plan no longer matches the deployment revision"⟩
  executeDeletion sha256 order document.state
  pure (.stateMutateApplied document.state.config.revision)

/-- What `execute_journaled_validated` runs under the journal for an uninstall. -/
def uninstall : Deleting CompletionBody := do
  if ← convergeUninstallCompletion sha256 order then
    pure (.stateMutateApplied order.expectedRevision)
  else answerUninstall sha256 order

def executeUninstall : Execution Deletion CompletionBody Host := fun deletion host =>
  match uninstall sha256 order deletion host with
  | (.ok body, host') => (some (.completed (.other body)), host')
  | (.error refusal, host') => (some (.failed refusal.code refusal.detail), host')
  | (.crashed, host') => (none, host')

end deletion

section convergence

variable {sha256 : Document → Digest} {order : UninstallOrder} {e : Deletion} {s : Host}

def Deletion.clean (deletion : Deletion) : Prop :=
  ∀ effect, deletion.faults effect = .none

theorem ensures_deleting (label : DeletionEffect) (code : String) (body : Deleting α)
    (Q : Outcome Refusal α → Host → Prop) :
    Program.Ensures (deleting label code body) e Q s ↔
      (e.faults label = .none → Program.Ensures body e Q s) ∧
      (∀ d, e.faults label = .fail d → Q (.error ⟨code, d⟩) s) ∧
      (e.faults label = .crash → Q .crashed s) :=
  Program.ensures_effect _ _ _ _

/-- The completion record is the order's own, and the document in place is not the one that it
names. -/
def Recorded (sha256 : Document → Digest) (order : UninstallOrder) (host : Host) : Prop :=
  ∃ completion ∈ host.completion, completionMatches completion order ∧
    ∀ document ∈ host.document, sha256 document ≠ completion.stateSha256

/-- A record of its own answers an uninstall, and nothing is deleted. -/
theorem uninstall_recorded (recorded : Recorded sha256 order s) :
    Program.Ensures (uninstall sha256 order) e
      (fun o s' => s' = s ∧
        (e.clean → o = .ok (.stateMutateApplied order.expectedRevision))) s := by
  obtain ⟨completion, held, matching, other⟩ := recorded
  have held : s.completion = some completion := held
  have dirty : ∀ {label : DeletionEffect} {fault : Fault String}, e.faults label = fault →
      fault ≠ .none → ¬e.clean := fun faulted bad clean => bad (faulted.symm.trans (clean _))
  simp only [uninstall, convergeUninstallCompletion, Program.ensures_bind, ensures_deleting,
    Program.ensures_pure, Program.ensures_get, Program.after_ok, Program.after_error,
    Program.after_crashed, held, if_pos matching]
  refine ⟨fun _ => ⟨fun _ => ⟨fun _ => ?_, fun d faulted => ?_, fun faulted => ?_⟩,
    fun d faulted => ?_, fun faulted => ?_⟩, fun d faulted => ?_, fun faulted => ?_⟩
  · cases present : s.document with
    | none => exact ⟨rfl, fun _ => rfl⟩
    | some document =>
      have differs := other document present
      simp [Program.ensures_bind, differs]
  all_goals exact ⟨trivial, fun clean => absurd clean (dirty faulted (by simp))⟩

theorem removeDeployment_ensures : Program.Ensures (removeDeployment sha256 order) e
    (fun o s' => (∃ b, o = .ok b) → s'.document = none) s := by
  simp only [removeDeployment, Program.ensures_bind, ensures_deleting, Program.ensures_pure,
    Program.ensures_get, Program.after_ok, Program.after_error, Program.after_crashed]
  refine ⟨fun _ => ⟨fun _ => ?_, by simp, by simp⟩, by simp, by simp⟩
  cases present : s.document with
  | none =>
    simp [Program.ensures_bind, ensures_deleting, present]
  | some document =>
    simp [Program.ensures_bind, ensures_deleting]

/-- What the last step alone has to bring about. -/
theorem ensures_finally {β : Type} {p : Deleting α} {q : α → Deleting β} {P : Host → Prop}
    (last : ∀ a s', Program.Ensures (q a) e (fun o s' => (∃ b, o = .ok b) → P s') s') :
    Program.Ensures (p >>= q) e (fun o s' => (∃ b, o = .ok b) → P s') s := by
  rw [Program.ensures_bind]
  refine Program.Ensures.of_forall fun o s' => ?_
  cases o with
  | ok a => exact last a s'
  | error refusal => simp
  | crashed => simp

theorem executeDeletion_ensures (state : DeploymentState) :
    Program.Ensures (executeDeletion sha256 order state) e
      (fun o s' => (∃ b, o = .ok b) → s'.document = none) s := by
  unfold executeDeletion
  refine ensures_finally fun _ _ => ensures_finally fun _ _ => ensures_finally fun _ _ => ?_
  refine ensures_finally fun _ _ => ensures_finally fun _ s' => ?_
  exact removeDeployment_ensures

theorem answerUninstall_ensures : Program.Ensures (answerUninstall sha256 order) e
    (fun o s' => (∃ body, o = .ok body) → s'.document ≠ s.document) s := by
  simp only [answerUninstall, loadExisting, Program.ensures_bind, ensures_deleting,
    Program.ensures_get, Program.after_ok]
  refine ⟨fun _ => ?_, by simp, by simp⟩
  cases present : s.document with
  | none => simp
  | some document =>
    simp only [Program.ensures_pure, Program.after_ok, Program.ensures_bind,
      Program.ensures_require, Program.after_error]
    refine ⟨fun _ => ?_, by simp⟩
    refine (executeDeletion_ensures document.state).mono fun o s' removed => ?_
    cases o with
    | ok _ => exact fun _ => by simp [removed ⟨_, rfl⟩]
    | error refusal => simp
    | crashed => simp

/-- Without a record of its own an uninstall completes by deleting the document. -/
theorem uninstall_unrecorded (unrecorded : ¬Recorded sha256 order s) :
    Program.Ensures (uninstall sha256 order) e
      (fun o s' => (∃ body, o = .ok body) → s'.document ≠ s.document) s := by
  simp only [uninstall, convergeUninstallCompletion, Program.ensures_bind, ensures_deleting,
    Program.ensures_pure, Program.ensures_get, Program.after_ok, Program.after_error,
    Program.after_crashed]
  refine ⟨fun _ => ⟨fun _ => ?_, by simp, by simp⟩, by simp, by simp⟩
  cases held : s.completion with
  | none => exact answerUninstall_ensures
  | some completion =>
    by_cases matching : completionMatches completion order
    · obtain ⟨document, present, same⟩ : ∃ document, s.document = some document ∧
          sha256 document = completion.stateSha256 := by
        by_contra other
        push Not at other
        exact unrecorded ⟨completion, held, matching, other⟩
      simp [Program.ensures_bind, ensures_deleting, matching, present, same]
    · simp only [if_neg matching]
      exact answerUninstall_ensures

theorem executeUninstall_recorded (recorded : Recorded sha256 order s) :
    (executeUninstall sha256 order e s).2 = s ∧
      (e.clean → (executeUninstall sha256 order e s).1 =
        some (.completed (.other (.stateMutateApplied order.expectedRevision)))) := by
  have answered := uninstall_recorded (e := e) recorded
  unfold Program.Ensures at answered
  unfold executeUninstall
  rcases run : uninstall sha256 order e s with ⟨body | refusal | _, s'⟩
  · rw [run] at answered
    exact ⟨answered.1, fun clean => by simpa using answered.2 clean⟩
  · rw [run] at answered
    exact ⟨answered.1, fun clean => by simpa using answered.2 clean⟩
  · rw [run] at answered
    exact ⟨answered.1, fun clean => by simpa using answered.2 clean⟩

theorem executeUninstall_unrecorded (unrecorded : ¬Recorded sha256 order s)
    {body : HostCompletionBody CompletionBody}
    (completed : (executeUninstall sha256 order e s).1 = some (.completed body)) :
    (executeUninstall sha256 order e s).2.document ≠ s.document := by
  have deleted := uninstall_unrecorded (e := e) unrecorded
  unfold Program.Ensures at deleted
  unfold executeUninstall at completed ⊢
  rcases run : uninstall sha256 order e s with ⟨body' | refusal | _, s'⟩
  · rw [run] at deleted
    exact deleted ⟨_, rfl⟩
  · simp [run] at completed
  · simp [run] at completed

end convergence

section frames

variable {e : Deletion}

/-- The program ends in a result or a refusal. -/
def Lives (e : Deletion) (p : Deleting α) : Prop :=
  ∀ s, (p e s).1 ≠ .crashed

theorem lives_bind {β : Type} {p : Deleting α} {q : α → Deleting β} (hp : Lives e p)
    (hq : ∀ a, Lives e (q a)) : Lives e (p >>= q) := by
  intro s
  rcases run : p e s with ⟨a | refusal | _, s'⟩
  · rw [Program.run_bind_ok run]
    exact hq a s'
  · rw [Program.run_bind_error run]
    simp
  · exact absurd (congrArg Prod.fst run) (hp s)

theorem lives_pure (a : α) : Lives e (Pure.pure a : Deleting α) :=
  fun _ => by simp

theorem lives_throw (refusal : Refusal) : Lives e (Program.throw refusal : Deleting α) :=
  fun _ => by simp

theorem lives_require (c : Prop) [Decidable c] (refusal : Refusal) :
    Lives e (Program.require c refusal : Deleting Unit) := by
  intro s
  rw [Program.run_require]
  split_ifs <;> simp

theorem lives_deleting {label : DeletionEffect} {code : String} {body : Deleting α}
    (clean : e.clean) (h : Lives e body) : Lives e (deleting label code body) := by
  intro s
  have through : deleting label code body e s = body e s := by
    simp [deleting, Program.effect, clean label]
  rw [through]
  exact h s

theorem lives_read {label : DeletionEffect} {code : String} (clean : e.clean) (f : Host → α) :
    Lives e (deleting label code (do pure (f (← Program.get)))) :=
  lives_deleting clean fun _ => by simp [Program.run_bind]

theorem lives_write {label : DeletionEffect} {code : String} (clean : e.clean)
    (f : Host → Host) : Lives e (deleting label code (Program.modify f)) :=
  lives_deleting clean fun _ => by simp

theorem lives_onlyIf {c : Prop} [Decidable c] {p : Deleting Unit} (h : Lives e p) :
    Lives e (Program.onlyIf c p) := by
  unfold Program.onlyIf
  split_ifs
  · exact h
  · exact lives_pure ()

variable {sha256 : Document → Digest} {order : UninstallOrder}

theorem lives_converge (clean : e.clean) :
    Lives e (convergeUninstallCompletion sha256 order) := by
  refine lives_bind (lives_deleting clean (lives_pure ())) fun _ => ?_
  refine lives_bind (lives_read clean _) fun completion => ?_
  cases completion with
  | none => exact lives_pure false
  | some completion =>
    by_cases matching : completionMatches completion order
    · simp only [if_pos matching]
      refine lives_bind (lives_read clean _) fun document => ?_
      cases document with
      | none => exact lives_pure true
      | some document =>
        exact lives_bind (lives_onlyIf (lives_write clean _)) fun _ => lives_pure true
    · simp only [if_neg matching]
      exact lives_pure false

theorem lives_get (f : Host → Deleting α) (h : ∀ host, Lives e (f host)) :
    Lives e (Program.get >>= f) :=
  fun s => h s s

theorem lives_removeDirAll (clean : e.clean) (path : Path) : Lives e (removeDirAll path) := by
  intro s
  simp [removeDirAll, clean (.removeTree path)]

theorem lives_makeTreeRemovable (clean : e.clean) (path : Path) :
    Lives e (makeTreeRemovable path) :=
  lives_get _ fun _ => lives_bind (lives_require _ _) fun _ => lives_deleting clean (lives_pure ())

theorem lives_unlinked (path : Path) : Lives e (unlinked path) := by
  refine lives_get _ fun host => ?_
  rcases host.entries path with _ | _ | _ | _
  · exact lives_pure false
  · exact lives_throw _
  · exact lives_bind (fun _ => by simp) fun _ => lives_pure true
  · exact lives_bind (fun _ => by simp) fun _ => lives_pure true

theorem lives_removeFileDurable (clean : e.clean) (path : Path) :
    Lives e (removeFileDurable path) := by
  refine lives_bind (lives_deleting clean (lives_pure ())) fun _ => lives_get _ fun _ => ?_
  refine lives_bind (lives_require _ _) fun _ => ?_
  refine lives_bind (lives_deleting clean (lives_unlinked path)) fun removed => ?_
  exact lives_onlyIf (lives_deleting clean (lives_pure ()))

theorem lives_deleteManagedResource (clean : e.clean) (kind : String) (locator : Path) :
    Lives e (deleteManagedResource kind locator) := by
  unfold deleteManagedResource
  split_ifs with directory file
  · refine lives_bind (lives_require _ _) fun _ => lives_bind (lives_read clean _) fun entry => ?_
    rcases entry with _ | _ | _ | _
    · exact lives_pure ()
    · exact lives_bind (lives_makeTreeRemovable clean _) fun _ => lives_removeDirAll clean _
    · exact lives_throw _
    · exact lives_throw _
  · refine lives_bind (lives_require _ _) fun _ => lives_bind (lives_read clean _) fun entry => ?_
    rcases entry with _ | _ | _ | _
    · exact lives_removeFileDurable clean _
    · exact lives_throw _
    · exact lives_bind (lives_removeFileDurable clean _) fun _ => lives_removeFileDurable clean _
    · exact lives_throw _
  · exact lives_throw _

theorem lives_deleteResources (clean : e.clean) (resources : List Resource) :
    Lives e (deleteResources resources) := by
  induction resources with
  | nil => exact lives_pure ()
  | cons resource rest ih =>
    exact lives_bind (lives_deleteManagedResource clean _ _) fun _ => ih

theorem lives_deleteRuntime (clean : e.clean) (kind : RuntimeBackendKind) :
    Lives e (deleteRuntime order kind) := by
  refine lives_bind (lives_read clean _) fun runtime => ?_
  cases runtime with
  | none => exact lives_pure ()
  | some object =>
    refine lives_bind (lives_require _ _) fun _ => ?_
    exact lives_bind (lives_onlyIf (lives_write clean _)) fun _ => lives_write clean _

theorem lives_removeDeployment (clean : e.clean) : Lives e (removeDeployment sha256 order) := by
  refine lives_bind (lives_deleting clean (lives_pure ())) fun _ => ?_
  refine lives_bind (lives_read clean _) fun document => ?_
  cases document with
  | none => exact lives_bind (lives_read clean _) fun _ => lives_require _ _
  | some document =>
    refine lives_bind (lives_require _ _) fun _ => ?_
    exact lives_bind (lives_write clean _) fun _ => lives_write clean _

theorem lives_uninstall (clean : e.clean) : Lives e (uninstall sha256 order) := by
  refine lives_bind (lives_converge clean) fun converged => ?_
  cases converged with
  | true => exact lives_pure _
  | false =>
    refine lives_bind (lives_deleting clean fun s => ?_) fun document => ?_
    · cases present : s.document <;> simp [Program.run_bind, present]
    refine lives_bind (lives_require _ _) fun _ => lives_bind ?_ fun _ => lives_pure _
    refine lives_bind (lives_deleting clean (lives_pure ())) fun _ => ?_
    refine lives_bind (lives_deleteRuntime clean _) fun _ => ?_
    refine lives_bind (lives_deleteResources clean _) fun _ => ?_
    refine lives_bind (lives_removeFileDurable clean _) fun _ => ?_
    refine lives_bind (lives_removeFileDurable clean _) fun _ => ?_
    exact lives_removeDeployment clean

end frames

section records

variable {sha256 : Document → Digest} {order : UninstallOrder} {e : Deletion} {s : Host}

/-- The completion record answers for the order. -/
def OwnRecord (order : UninstallOrder) (host : Host) : Prop :=
  ∃ completion ∈ host.completion, completionMatches completion order

/-- Neither the document nor the record has changed, or the record is the order's own. -/
def Records (order : UninstallOrder) (host host' : Host) : Prop :=
  (host'.document = host.document ∧ host'.completion = host.completion) ∨ OwnRecord order host'

theorem Records.refl (host : Host) : Records order host host :=
  .inl ⟨rfl, rfl⟩

theorem Records.trans {a b c : Host} (first : Records order a b) (second : Records order b c) :
    Records order a c := by
  rcases second with ⟨document, completion⟩ | own
  · rcases first with ⟨document', completion'⟩ | own
    · exact .inl ⟨document.trans document', completion.trans completion'⟩
    · exact .inr (by unfold OwnRecord at own ⊢; rwa [completion])
  · exact .inr own

theorem records_bind {β : Type} {p : Deleting α} {q : α → Deleting β}
    (hp : Program.Keeps p (Records order)) (hq : ∀ a, Program.Keeps (q a) (Records order)) :
    Program.Keeps (p >>= q) (Records order) :=
  Program.keeps_bind (R := Records order) (fun _ _ _ => Records.trans) hp hq

theorem records_read {label : DeletionEffect} {code : String} (f : Host → α) :
    Program.Keeps (deleting label code (do pure (f (← Program.get)))) (Records order) :=
  Program.keeps_effect Records.refl _ _ fun _ _ => .inl ⟨rfl, rfl⟩

theorem records_write {label : DeletionEffect} {code : String} {f : Host → Host}
    (aside : ∀ s, (f s).document = s.document ∧ (f s).completion = s.completion) :
    Program.Keeps (deleting label code (Program.modify f)) (Records order) :=
  Program.keeps_effect Records.refl _ _ fun _ s => .inl (aside s)

theorem records_gate {label : DeletionEffect} {code : String} :
    Program.Keeps (deleting label code (pure ()) : Deleting Unit) (Records order) :=
  Program.keeps_effect Records.refl _ _ fun _ s => Records.refl s

theorem records_get {f : Host → Deleting α} (h : ∀ host, Program.Keeps (f host) (Records order)) :
    Program.Keeps (Program.get >>= f) (Records order) :=
  fun e s => h s e s

theorem records_require (c : Prop) [Decidable c] (refusal : Refusal) :
    Program.Keeps (Program.require c refusal : Deleting Unit) (Records order) :=
  Program.keeps_require Records.refl c refusal

theorem records_removeDirAll (path : Path) :
    Program.Keeps (removeDirAll path) (Records order) := by
  intro e s
  unfold removeDirAll
  cases e.faults (.removeTree path) <;> exact .inl ⟨rfl, rfl⟩

theorem records_makeTreeRemovable (path : Path) :
    Program.Keeps (makeTreeRemovable path) (Records order) :=
  records_get fun _ => records_bind (records_require _ _) fun _ => records_gate

theorem records_unlinked (path : Path) : Program.Keeps (unlinked path) (Records order) := by
  refine records_get fun host => ?_
  rcases host.entries path with _ | _ | _ | _
  · exact Program.keeps_pure Records.refl false
  · exact Program.keeps_throw Records.refl _
  all_goals
    refine records_bind ?_ fun _ => Program.keeps_pure Records.refl true
    exact Program.keeps_modify _ fun _ => .inl ⟨rfl, rfl⟩

theorem records_removeFileDurable (path : Path) :
    Program.Keeps (removeFileDurable path) (Records order) := by
  refine records_bind records_gate fun _ => records_get fun _ => ?_
  refine records_bind (records_require _ _) fun _ => ?_
  refine records_bind (Program.keeps_effect Records.refl _ _ (records_unlinked path))
    fun removed => ?_
  exact Program.keeps_onlyIf Records.refl _ records_gate

theorem records_deleteManagedResource (kind : String) (locator : Path) :
    Program.Keeps (deleteManagedResource kind locator) (Records order) := by
  have refused : ∀ refusal, Program.Keeps (Program.throw refusal : Deleting Unit)
      (Records order) := fun refusal => Program.keeps_throw Records.refl refusal
  have safe := fun c [Decidable c] refusal =>
    Program.keeps_require (ρ := Deletion) (ε := Refusal) (R := Records order) Records.refl c refusal
  unfold deleteManagedResource
  split_ifs with directory file
  · refine records_bind (safe _ _) fun _ => records_bind (records_read _) fun entry => ?_
    rcases entry with _ | _ | _ | _
    · exact Program.keeps_pure Records.refl ()
    · exact records_bind (records_makeTreeRemovable _) fun _ => records_removeDirAll _
    · exact refused _
    · exact refused _
  · refine records_bind (safe _ _) fun _ => records_bind (records_read _) fun entry => ?_
    rcases entry with _ | _ | _ | _
    · exact records_removeFileDurable _
    · exact refused _
    · exact records_bind (records_removeFileDurable _) fun _ => records_removeFileDurable _
    · exact refused _
  · exact refused _

theorem records_deleteResources (resources : List Resource) :
    Program.Keeps (deleteResources resources) (Records order) := by
  induction resources with
  | nil => exact Program.keeps_pure Records.refl ()
  | cons resource rest ih => exact records_bind (records_deleteManagedResource _ _) fun _ => ih

theorem records_deleteRuntime (kind : RuntimeBackendKind) :
    Program.Keeps (deleteRuntime order kind) (Records order) := by
  refine records_bind (records_read _) fun runtime => ?_
  cases runtime with
  | none => exact Program.keeps_pure Records.refl ()
  | some object =>
    refine records_bind (Program.keeps_require Records.refl _ _) fun _ => ?_
    refine records_bind ?_ fun _ => records_write fun _ => ⟨rfl, rfl⟩
    unfold Program.onlyIf
    split_ifs
    · exact records_write fun _ => ⟨rfl, rfl⟩
    · exact Program.keeps_pure Records.refl ()

theorem records_removeDeployment :
    Program.Keeps (removeDeployment sha256 order) (Records order) := by
  intro e s
  have kept : Program.Ensures (removeDeployment sha256 order) e
      (fun _ s' => Records order s s') s := by
    have same : Records order s s := Records.refl s
    simp only [removeDeployment, Program.ensures_bind, ensures_deleting, Program.ensures_pure,
      Program.ensures_get, Program.after_ok, Program.after_error, Program.after_crashed]
    refine ⟨fun _ => ⟨fun _ => ?_, fun _ _ => same, fun _ => same⟩, fun _ _ => same,
      fun _ => same⟩
    cases s.document with
    | none => simp [Program.ensures_bind, ensures_deleting, same]
    | some document =>
      simp only [Program.ensures_bind, Program.ensures_require, Program.after_ok,
        Program.after_error, ensures_deleting, Program.ensures_modify, Program.after_crashed]
      refine ⟨fun revision => ⟨fun _ => ?_, fun _ _ => same, fun _ => same⟩, fun _ => same⟩
      have own : completionMatches ⟨order.deploymentId, order.operationId,
          document.state.config.revision, sha256 document⟩ order := ⟨rfl, rfl, revision⟩
      exact ⟨fun _ => .inr ⟨_, rfl, own⟩, fun _ _ => .inr ⟨_, rfl, own⟩,
        fun _ => .inr ⟨_, rfl, own⟩⟩
  exact kept

theorem records_converge :
    Program.Keeps (convergeUninstallCompletion sha256 order) (Records order) := by
  intro e s
  have kept : Program.Ensures (convergeUninstallCompletion sha256 order) e
      (fun _ s' => Records order s s') s := by
    have same : Records order s s := Records.refl s
    simp only [convergeUninstallCompletion, Program.ensures_bind, ensures_deleting,
      Program.ensures_pure, Program.ensures_get, Program.after_ok, Program.after_error,
      Program.after_crashed]
    refine ⟨fun _ => ⟨fun _ => ?_, fun _ _ => same, fun _ => same⟩, fun _ _ => same,
      fun _ => same⟩
    cases held : s.completion with
    | none => exact same
    | some completion =>
      by_cases matching : completionMatches completion order
      · simp only [if_pos matching, Program.ensures_bind, ensures_deleting, Program.ensures_pure,
          Program.ensures_get, Program.after_ok, Program.after_error, Program.after_crashed]
        refine ⟨fun _ => ?_, fun _ _ => same, fun _ => same⟩
        cases s.document with
        | none => exact same
        | some document =>
          have own : Records order s { s with document := none } :=
            .inr ⟨completion, held, matching⟩
          simp [Program.ensures_bind, ensures_deleting, same, own]
      · simp only [if_neg matching]
        exact same
  exact kept

theorem records_uninstall : Program.Keeps (uninstall sha256 order) (Records order) := by
  refine records_bind records_converge fun converged => ?_
  cases converged with
  | true => exact Program.keeps_pure Records.refl _
  | false =>
    have loads : Program.Keeps loadExisting (Records order) :=
      Program.keeps_effect Records.refl _ _ fun e s => by
        cases present : s.document <;> simp [Program.run_bind, present, Records.refl]
    refine records_bind loads fun document => ?_
    refine records_bind (Program.keeps_require Records.refl _ _) fun _ => ?_
    refine records_bind ?_ fun _ => Program.keeps_pure Records.refl _
    refine records_bind records_gate fun _ => ?_
    refine records_bind (records_deleteRuntime _) fun _ => ?_
    refine records_bind (records_deleteResources _) fun _ => ?_
    refine records_bind (records_removeFileDurable _) fun _ => ?_
    exact records_bind (records_removeFileDurable _) fun _ => records_removeDeployment

theorem executeUninstall_records (e : Deletion) (s : Host) :
    Records order s (executeUninstall sha256 order e s).2 := by
  have kept := @records_uninstall sha256 order e s
  unfold executeUninstall
  rcases run : uninstall sha256 order e s with ⟨body | refusal | _, s'⟩ <;>
    simpa [run] using kept

end records

/-- An operation other than an uninstall. It leaves the completion record alone. -/
structure OtherCall where
  call : Call Deletion CompletionBody Host
  other : call.operation.body ≠ .stateMutate .uninstall
  keeps : ∀ deletion host, (call.execute deletion host).2.completion = host.completion

/-- One submission to the target: an uninstall of the deployment id or anything else. -/
inductive Submission where
  | uninstall (order : UninstallOrder) (attempt : JournaledCalls.Attempt Deletion)
  | other (call : OtherCall)

section runs

variable (journal : TargetJournal CompletionBody) (sha256 : Document → Digest)

def UninstallOrder.call (order : UninstallOrder) (attempt : JournaledCalls.Attempt Deletion) :
    Call Deletion CompletionBody Host where
  operation := order.operation
  execute := executeUninstall sha256 order
  attempt := attempt

def Submission.call : Submission → Call Deletion CompletionBody Host
  | .uninstall order attempt => order.call sha256 attempt
  | .other elsewhere => elsewhere.call

def runs : Scope CompletionBody Host → List Submission → Scope CompletionBody Host
  | scope, [] => scope
  | scope, submission :: rest => runs ((submission.call sha256).run journal scope).2 rest

/-- The uninstall has completed: it was answered so, or it took the document of a generation. -/
def Finished (scope : Scope CompletionBody Host) (before : List Submission)
    (order : UninstallOrder) : Prop :=
  ∃ earlier attempt later, before = earlier ++ .uninstall order attempt :: later ∧
    ((∃ body, ((order.call sha256 attempt).run journal (runs journal sha256 scope earlier)).1 =
        .ok (.completed body)) ∨
      ((runs journal sha256 scope earlier).world.document ≠ none ∧
        ((order.call sha256 attempt).run journal
          (runs journal sha256 scope earlier)).2.world.document = none))

def Unfaulted (attempt : JournaledCalls.Attempt Deletion) : Prop :=
  (∀ label, attempt.faults label = .none) ∧ attempt.execution.clean

/-- A retry leaves the document in place, and answers that the uninstall has completed. -/
structure Spared (order : UninstallOrder) (attempt : JournaledCalls.Attempt Deletion)
    (scope : Scope CompletionBody Host) : Prop where
  document : ((order.call sha256 attempt).run journal scope).2.world.document =
    scope.world.document
  answer : Unfaulted attempt →
    ∃ body, ((order.call sha256 attempt).run journal scope).1 = .ok (.completed body)

/-- Every retry of an uninstall that has completed spares the later generations. -/
def GenerationsSpared (scope : Scope CompletionBody Host) (steps : List Submission) : Prop :=
  ∀ before order attempt after, steps = before ++ .uninstall order attempt :: after →
    Finished journal sha256 scope before order →
      Spared journal sha256 order attempt (runs journal sha256 scope before)

/-- The journal answers the retry, or admits it and the completion record is still its own. -/
def Shielded (order : UninstallOrder) (acceptedAt : ℤ)
    (scope : Scope CompletionBody Host) : Prop :=
  let lines := openedLines journal scope.lines
  conflicting order.operation lines = none ∧
    ((∃ body, storedAnswer order.operation lines = some (.completed body)) ∨
      (storedAnswer order.operation lines = none ∧
        admitted journal order.operation acceptedAt lines ∧
        Recorded sha256 order scope.world))

/-- No other uninstall of the steps writes the completion record. -/
def Alone (order : UninstallOrder) (scope : Scope CompletionBody Host)
    (steps : List Submission) : Prop :=
  ∀ before other attempt after, steps = before ++ .uninstall other attempt :: after →
    other ≠ order →
      ((other.call sha256 attempt).run journal
        (runs journal sha256 scope before)).2.world.completion =
          (runs journal sha256 scope before).world.completion

end runs

section generations

variable {journal : TargetJournal CompletionBody} {sha256 : Document → Digest}

/-- A shielded retry changes nothing, and what it answers is a completion. -/
theorem shielded_spares {order : UninstallOrder} {attempt : JournaledCalls.Attempt Deletion}
    {scope : Scope CompletionBody Host}
    (shielded : Shielded journal sha256 order attempt.acceptedAt scope) :
    ((order.call sha256 attempt).run journal scope).2.world.document = scope.world.document ∧
      (attempt.execution.clean → ∀ outcome,
        ((order.call sha256 attempt).run journal scope).1 = .ok outcome →
          ∃ body, outcome = .completed body) := by
  obtain ⟨agrees, held⟩ := shielded
  have dispatched := call_dispatched journal (order.call sha256 attempt) scope
  generalize ((order.call sha256 attempt).run journal scope).1 = o at dispatched
  generalize ((order.call sha256 attempt).run journal scope).2.world = world at dispatched
  cases dispatched with
  | unanswered none => exact ⟨rfl, fun _ outcome answer => absurd answer (none outcome)⟩
  | conflict found => exact absurd (agrees.symm.trans found) (by simp)
  | stored _ answer =>
    rcases held with ⟨body, completed⟩ | ⟨unanswered, -, -⟩
    · have same := Option.some.inj (completed.symm.trans answer)
      refine ⟨rfl, fun _ outcome given => ⟨body, ?_⟩⟩
      cases given
      exact same.symm
    · exact absurd (unanswered.symm.trans answer) (by simp)
  | refused _ unanswered full =>
    rcases held with ⟨body, completed⟩ | ⟨-, room, -⟩
    · exact absurd (unanswered.symm.trans completed) (by simp)
    · exact absurd room full
  | executed _ unanswered room answer =>
    rcases held with ⟨body, completed⟩ | ⟨-, -, recorded⟩
    · exact absurd (unanswered.symm.trans completed) (by simp)
    · obtain ⟨kept, completes⟩ := executeUninstall_recorded (e := attempt.execution) recorded
      refine ⟨congrArg Host.document kept, fun clean outcome given =>
        ⟨.other (.stateMutateApplied order.expectedRevision), ?_⟩⟩
      exact Option.some.inj ((answer outcome given).symm.trans (completes clean))

/-- A retry that answers a completion and spares the document was shielded. -/
theorem spared_shielded {order : UninstallOrder} {attempt : JournaledCalls.Attempt Deletion}
    {scope : Scope CompletionBody Host}
    (kept : ((order.call sha256 attempt).run journal scope).2.world.document =
      scope.world.document) {body : HostCompletionBody CompletionBody}
    (completed : ((order.call sha256 attempt).run journal scope).1 = .ok (.completed body)) :
    Shielded journal sha256 order attempt.acceptedAt scope := by
  have dispatched := call_dispatched journal (order.call sha256 attempt) scope
  rw [completed] at dispatched
  generalize ((order.call sha256 attempt).run journal scope).2.world = world at dispatched kept
  generalize answered : Outcome.ok (HostOutcome.completed body) = o at dispatched
  cases dispatched with
  | unanswered none => exact absurd answered.symm (none _)
  | conflict found => cases answered
  | stored agrees answer =>
    cases answered
    exact ⟨agrees, .inl ⟨body, answer⟩⟩
  | refused _ _ _ => cases answered
  | executed agrees unanswered room answer =>
    refine ⟨agrees, .inr ⟨unanswered, room, ?_⟩⟩
    by_contra unrecorded
    exact executeUninstall_unrecorded unrecorded (answer _ answered.symm) kept

theorem uninstall_returns {order : UninstallOrder} {deletion : Deletion}
    (clean : deletion.clean) (host : Host) :
    (executeUninstall sha256 order deletion host).1 ≠ none := by
  have lives := @lives_uninstall deletion sha256 order clean host
  unfold executeUninstall
  rcases run : uninstall sha256 order deletion host with ⟨body | refusal | _, host'⟩
  · simp
  · simp
  · exact absurd (congrArg Prod.fst run) lives

theorem runs_append (scope : Scope CompletionBody Host) (first second : List Submission) :
    runs journal sha256 scope (first ++ second) =
      runs journal sha256 (runs journal sha256 scope first) second := by
  induction first generalizing scope with
  | nil => rfl
  | cons submission rest ih => exact ih _

/-- An uninstall that takes a document leaves the completion record as its own. -/
theorem removal_recorded {order : UninstallOrder} {attempt : JournaledCalls.Attempt Deletion}
    {scope : Scope CompletionBody Host} (present : scope.world.document ≠ none)
    (removed : ((order.call sha256 attempt).run journal scope).2.world.document = none) :
    OwnRecord order ((order.call sha256 attempt).run journal scope).2.world := by
  have world := call_world journal (order.call sha256 attempt) scope
  generalize ((order.call sha256 attempt).run journal scope).2.world = world' at world removed ⊢
  rcases world with same | executed
  · exact absurd (same ▸ removed) present
  · rcases @executeUninstall_records sha256 order attempt.execution scope.world with kept | own
    · have document : world'.document = scope.world.document := executed ▸ kept.1
      exact absurd (document.symm.trans removed) present
    · exact executed ▸ own

/-- The record stays an order's own for as long as no other uninstall writes it. -/
theorem own_record_kept {order : UninstallOrder} (steps : List Submission)
    {scope : Scope CompletionBody Host} (own : OwnRecord order scope.world)
    (alone : Alone journal sha256 order scope steps) :
    OwnRecord order (runs journal sha256 scope steps).world := by
  induction steps generalizing scope with
  | nil => exact own
  | cons submission rest ih =>
    refine ih ?_ fun before other attempt after split differs =>
      alone (submission :: before) other attempt after (by rw [split]; rfl) differs
    have world := call_world journal (submission.call sha256) scope
    have carried : ∀ {host : Host}, host.completion = scope.world.completion →
        OwnRecord order host := fun same => by
      unfold OwnRecord at own ⊢
      rwa [same]
    cases submission with
    | other elsewhere =>
      rcases world with same | executed
      · exact carried (congrArg Host.completion same)
      · exact carried ((congrArg Host.completion executed).trans (elsewhere.keeps _ _))
    | uninstall other attempt =>
      by_cases mine : other = order
      · subst mine
        rcases world with same | executed
        · exact carried (congrArg Host.completion same)
        · rcases @executeUninstall_records sha256 other attempt.execution scope.world with
            kept | later
          · exact carried ((congrArg Host.completion executed).trans kept.2)
          · unfold OwnRecord at later ⊢
            rw [executed]
            exact later
      · exact carried (alone [] other attempt rest rfl mine)

/-- An uninstall that took a document and is sent again after any run in which no other uninstall
wrote the completion record leaves a document alone that the record does not name. -/
theorem later_generation_kept {order : UninstallOrder}
    {attempt retry : JournaledCalls.Attempt Deletion} {scope after : Scope CompletionBody Host}
    {steps : List Submission} (present : scope.world.document ≠ none)
    (removed : ((order.call sha256 attempt).run journal scope).2.world.document = none)
    (alone : Alone journal sha256 order ((order.call sha256 attempt).run journal scope).2 steps)
    (reached : runs journal sha256 scope (.uninstall order attempt :: steps) = after)
    (later : ∀ completion ∈ after.world.completion, ∀ document ∈ after.world.document,
      sha256 document ≠ completion.stateSha256) :
    ((order.call sha256 retry).run journal after).2.world.document = after.world.document := by
  have own : OwnRecord order after.world :=
    reached ▸ own_record_kept steps (removal_recorded present removed) alone
  obtain ⟨completion, held, matching⟩ := own
  have recorded : Recorded sha256 order after.world :=
    ⟨completion, held, matching, later completion held⟩
  rcases call_world journal (order.call sha256 retry) after with same | executed
  · rw [same]
  · rw [executed]
    exact congrArg Host.document (executeUninstall_recorded recorded).1

/-- Every submission of the steps appends lines that fit. -/
theorem runs_reachable {scope : Scope CompletionBody Host} (steps : List Submission)
    (fitting : ∀ submission ∈ steps,
      JournalSpace.Fitting journal (submission.call sha256))
    (reachable : Reachable journal (JournalSpace.Fitting (ρ := Deletion) journal) scope) :
    Reachable journal (JournalSpace.Fitting (ρ := Deletion) journal)
      (runs journal sha256 scope steps) := by
  induction steps generalizing scope with
  | nil => exact reachable
  | cons submission rest ih =>
    refine ih (fun later hlater => fitting later (List.mem_cons_of_mem _ hlater)) ?_
    exact .call _ reachable (fitting submission List.mem_cons_self)

end generations

/-- Retries of completed uninstalls spare the later generations of every run in which each of
them is shielded, and an unfaulted retry that spares them was shielded. -/
theorem generations_spared (encode : JournalLine CompletionBody → Bytes)
    (sha256 : Document → Digest) (host : Host) (steps : List Submission)
    (fitting : ∀ submission ∈ steps,
      JournalSpace.Fitting ⟨.default, encode⟩ (submission.call sha256)) :
    ((∀ before order attempt after, steps = before ++ .uninstall order attempt :: after →
        Finished ⟨.default, encode⟩ sha256 ⟨[], host⟩ before order →
          Shielded ⟨.default, encode⟩ sha256 order attempt.acceptedAt
            (runs ⟨.default, encode⟩ sha256 ⟨[], host⟩ before)) →
      GenerationsSpared ⟨.default, encode⟩ sha256 ⟨[], host⟩ steps) ∧
    (GenerationsSpared ⟨.default, encode⟩ sha256 ⟨[], host⟩ steps →
      ∀ before order attempt after, steps = before ++ .uninstall order attempt :: after →
        Finished ⟨.default, encode⟩ sha256 ⟨[], host⟩ before order → Unfaulted attempt →
          Shielded ⟨.default, encode⟩ sha256 order attempt.acceptedAt
            (runs ⟨.default, encode⟩ sha256 ⟨[], host⟩ before)) := by
  constructor
  · intro shielded before order attempt after split finished
    have held := shielded before order attempt after split finished
    obtain ⟨document, completes⟩ := shielded_spares held
    refine ⟨document, fun unfaulted => ?_⟩
    have earlier : ∀ submission ∈ before,
        JournalSpace.Fitting ⟨.default, encode⟩ (submission.call sha256) :=
      fun submission h => fitting submission (by simp [split, h])
    have readable := JournalSpace.readable_reachable JournalSpace.default_roomy
      (runs_reachable before earlier (.absent host))
    obtain ⟨outcome, answer⟩ := call_answers JournalSpace.default_roomy
      (order.call sha256 attempt) _ readable
      (fitting (.uninstall order attempt) (by simp [split])) unfaulted.1
      (fun world => uninstall_returns unfaulted.2 world)
    obtain ⟨body, rfl⟩ := completes unfaulted.2 outcome answer
    exact ⟨body, answer⟩
  · intro spared before order attempt after split finished unfaulted
    have held := spared before order attempt after split finished
    obtain ⟨body, completed⟩ := held.answer unfaulted
    exact spared_shielded held.document completed

/-- A line as eight bytes and the body of its answer. -/
def lineEncoding (line : JournalLine CompletionBody) : Bytes :=
  List.replicate 8 0 ++ match line.result with
    | some (.completed (.other (.other body))) => body
    | _ => []

/-- A digest that tells the documents below apart. -/
def firstTime (document : Document) : Digest :=
  (document.times.headD 0).toNat

def generation (n : ℤ) : Document where
  state :=
    { deploymentId := "deploy-alpha"
      issuer := "https://auth.example.com"
      runtime := ⟨.podman, "nazoauth-main", 8000⟩
      artifact := ⟨some 1, none⟩
      config := ⟨["etc", "config.yaml"], ⟨"v1", isIdentifier_v1⟩, 1⟩
      resources := []
      healthy := true
      appliedMigration := none
      activeHostOperation := some n.toNat
      currentRelease := none
      previousRelease := none
      previousConfigSnapshot := none }
  times := [n]

def quiet : JournaledCalls.Attempt Deletion where
  faults := fun _ => .none
  acceptedAt := 0
  completedAt := 1
  execution := ⟨fun _ => .none, fun _ _ => false⟩

/-- A bootstrap of a generation where no document exists. -/
def bootstrapOf (n : ℕ) : OtherCall where
  call :=
    { operation := ⟨n, n, .stateMutate .bootstrap⟩
      execute := fun _ host =>
        match host.document with
        | none => (some (.completed (.other (.stateMutateApplied 1))),
            { host with document := some (generation n) })
        | some _ => (some (.failed "DEPLOYMENT_EXISTS" "bootstrap never overwrites"), host)
      attempt := quiet }
  other := by simp
  keeps := by
    intro deletion host
    cases present : host.document <;> simp [present]

/-- An answer whose line takes up four MiB. -/
def largeBody : Bytes := List.replicate (4 * 1024 * 1024 - 9) 0

theorem largeBody_length : largeBody.length = 4 * 1024 * 1024 - 9 := List.length_replicate

def snapshotOf (n : ℕ) : OtherCall where
  call :=
    { operation := ⟨n, n, .backupSnapshot⟩
      execute := fun _ host => (some (.completed (.other (.other largeBody))), host)
      attempt := quiet }
  other := by simp
  keeps := by simp

/-- An uninstall at the revision every generation starts with. -/
def uninstallOf (n : ℕ) : UninstallOrder := ⟨n, n, "deploy-alpha", 1⟩

def generationJournal : TargetJournal CompletionBody := ⟨.default, lineEncoding⟩

def emptyHost : Host := ⟨none, none, none, fun _ => none⟩

/-- Two generations are installed and uninstalled, a third is installed, and four large answers
fill the journal. -/
def threeGenerations : List Submission :=
  [.other (bootstrapOf 1), .uninstall (uninstallOf 2) quiet, .other (bootstrapOf 3),
    .uninstall (uninstallOf 4) quiet, .other (bootstrapOf 5), .other (snapshotOf 6),
    .other (snapshotOf 7), .other (snapshotOf 8), .other (snapshotOf 9)]

theorem lineSize_lineEncoding (line : JournalLine CompletionBody) :
    lineSize lineEncoding line = 9 + match line.result with
      | some (.completed (.other (.other body))) => body.length
      | _ => 0 := by
  unfold lineSize lineBytes lineEncoding
  split <;> simp [Nat.add_comm, Nat.add_left_comm]

def worldAfter (host : Host) : List Submission → Host
  | [] => host
  | submission :: rest =>
    worldAfter ((submission.call firstTime).execute (submission.call firstTime).attempt.execution
      host).2 rest

abbrev Step := Submission × HostOutcome CompletionBody

def Step.lines (step : Step) : List (JournalLine CompletionBody) :=
  [pendingLine (step.1.call firstTime).operation 0,
    terminalLine (step.1.call firstTime).operation 1 step.2]

/-- What the steps answer when each of them is executed. -/
def Answering : Host → List Step → Prop
  | _, [] => True
  | host, step :: rest =>
    ((step.1.call firstTime).execute quiet.execution host).1 = some step.2 ∧
      Answering ((step.1.call firstTime).execute quiet.execution host).2 rest

/-- Steps that leave two lines each. -/
structure Recording (step : Step) : Prop where
  quiet : (step.1.call firstTime).attempt = quiet
  counts : isUpdateNoop (step.1.call firstTime).operation step.2 = false
  final : keepsPending step.2 = false

theorem recorded_plain {step : Step} {scope : Scope CompletionBody Host}
    (recording : Recording step)
    (answers : ((step.1.call firstTime).execute quiet.execution scope.world).1 = some step.2)
    (valid : ∀ line ∈ scope.lines, validateEntry line = true)
    (settled : unsettled [] scope.lines.reverse = [])
    (new : ∀ line ∈ scope.lines,
      line.operationId ≠ (step.1.call firstTime).operation.operationId)
    (room : totalSize lineEncoding scope.lines + 9 ≤ JournalBounds.default.maxBytes)
    (read : totalSize lineEncoding (scope.lines ++ step.lines) ≤ JournalBounds.default.readCap) :
    (step.1.call firstTime).run generationJournal scope =
      (.ok step.2, ⟨openedLines generationJournal (scope.lines ++ step.lines),
        ((step.1.call firstTime).execute quiet.execution scope.world).2⟩) := by
  have attempt := recording.quiet
  have pending : ∀ recordedAt, lineSize lineEncoding
      (pendingLine (step.1.call firstTime).operation recordedAt) = 9 := by
    intro recordedAt
    rw [lineSize_lineEncoding]
    rfl
  have plain : Plain generationJournal (step.1.call firstTime) scope step.2 :=
    { clean := fun label => by rw [attempt]; rfl
      new
      settled
      executed := by rw [attempt]; exact answers
      counts := recording.counts
      final := recording.final
      valid
      pending := (pending _).trans_le (by decide)
      room := by
        have small : lineSize generationJournal.encode (pendingLine
          (step.1.call firstTime).operation (step.1.call firstTime).attempt.acceptedAt) = 9 :=
            pending _
        rw [small]
        exact room }
  have lines : recordedLines (step.1.call firstTime) step.2 scope.lines =
      scope.lines ++ step.lines := by
    rw [recordedLines, attempt]
    rfl
  have run := plain_run JournalSpace.default_roomy plain (lines ▸ read)
  rw [run, lines, attempt]

theorem runs_recording (steps : List Step) (scope : Scope CompletionBody Host)
    (recording : ∀ step ∈ steps, Recording step) (answering : Answering scope.world steps)
    (valid : ∀ line ∈ scope.lines, validateEntry line = true)
    (settled : unsettled [] scope.lines.reverse = [])
    (new : ∀ step ∈ steps, ∀ line ∈ scope.lines,
      line.operationId ≠ (step.1.call firstTime).operation.operationId)
    (distinct : (steps.map fun step =>
      (step.1.call firstTime).operation.operationId).Nodup)
    (room : totalSize lineEncoding (scope.lines ++ steps.flatMap Step.lines) ≤
      JournalBounds.default.maxBytes) :
    runs generationJournal firstTime scope (steps.map Prod.fst) =
      ⟨scope.lines ++ steps.flatMap Step.lines,
        worldAfter scope.world (steps.map Prod.fst)⟩ := by
  induction steps generalizing scope with
  | nil => simp [runs, worldAfter]
  | cons step rest ih =>
    have records := recording step List.mem_cons_self
    have attempt := records.quiet
    have lines : scope.lines ++ step.lines =
        recordedLines (step.1.call firstTime) step.2 scope.lines := by
      rw [recordedLines, attempt]
      rfl
    have prefixed : (scope.lines ++ step.lines).Sublist
        (scope.lines ++ (step :: rest).flatMap Step.lines) := by
      rw [List.flatMap_cons, ← List.append_assoc]
      exact List.sublist_append_left _ _
    have small : totalSize lineEncoding (scope.lines ++ step.lines) ≤
        JournalBounds.default.maxBytes :=
      (JournalSpace.totalSize_sublist lineEncoding prefixed).trans room
    have fits : totalSize lineEncoding scope.lines + 9 ≤ JournalBounds.default.maxBytes := by
      have first : lineSize lineEncoding
          (pendingLine (step.1.call firstTime).operation 0) = 9 := by
        rw [lineSize_lineEncoding]
        rfl
      have total := small
      rw [JournalSpace.totalSize_append, Step.lines, JournalSpace.totalSize_cons, first] at total
      omega
    have run := recorded_plain records answering.1 valid settled (new step List.mem_cons_self) fits
      (small.trans (by decide))
    have kept : openedLines generationJournal (scope.lines ++ step.lines) =
        scope.lines ++ step.lines := if_pos small
    rw [kept] at run
    have later := ih ⟨scope.lines ++ step.lines,
        ((step.1.call firstTime).execute quiet.execution scope.world).2⟩
      (fun later hlater => recording later (List.mem_cons_of_mem _ hlater)) answering.2
      (lines ▸ recorded_valid valid) (lines ▸ recorded_settled settled) (by
        intro other hother line hline
        rcases List.mem_append.mp hline with hline | hline
        · exact new other (List.mem_cons_of_mem _ hother) line hline
        · have own : line.operationId = (step.1.call firstTime).operation.operationId := by
            simp only [Step.lines, List.mem_cons, List.not_mem_nil, or_false] at hline
            rcases hline with rfl | rfl
            · rfl
            · rfl
          rw [own]
          exact fun same => (List.nodup_cons.mp distinct).1
            (List.mem_map.mpr ⟨other, hother, same.symm⟩))
      (List.nodup_cons.mp distinct).2 (by
        simpa [List.flatMap_cons, List.append_assoc] using room)
    rw [List.map_cons, runs, run, later, worldAfter, attempt]
    simp [List.flatMap_cons, List.append_assoc]

def completedWith (body : CompletionBody) : HostOutcome CompletionBody :=
  .completed (.other body)

/-- The steps that leave the journal as full as it may be. -/
def fillingSteps : List Step :=
  [(.other (bootstrapOf 1), completedWith (.stateMutateApplied 1)),
    (.uninstall (uninstallOf 2) quiet, completedWith (.stateMutateApplied 1)),
    (.other (bootstrapOf 3), completedWith (.stateMutateApplied 1)),
    (.uninstall (uninstallOf 4) quiet, completedWith (.stateMutateApplied 1)),
    (.other (bootstrapOf 5), completedWith (.stateMutateApplied 1)),
    (.other (snapshotOf 6), completedWith (.other largeBody)),
    (.other (snapshotOf 7), completedWith (.other largeBody)),
    (.other (snapshotOf 8), completedWith (.other largeBody))]

def lastStep : Step := (.other (snapshotOf 9), completedWith (.other largeBody))

def answerSize : HostOutcome CompletionBody → ℕ
  | .completed (.other (.other body)) => body.length
  | _ => 0

theorem step_size (step : Step) : totalSize lineEncoding step.lines = 18 + answerSize step.2 := by
  have pending : lineSize lineEncoding (pendingLine (step.1.call firstTime).operation 0) = 9 := by
    rw [lineSize_lineEncoding]
    rfl
  have terminal : lineSize lineEncoding (terminalLine (step.1.call firstTime).operation 1 step.2) =
      9 + answerSize step.2 := by
    rw [lineSize_lineEncoding]
    obtain ⟨submission, outcome⟩ := step
    rcases outcome with ⟨⟨revision⟩ | ⟨⟨revision⟩ | ⟨body⟩⟩⟩ | ⟨code, detail⟩ <;> rfl
  simp only [Step.lines, totalSize, List.map_cons, List.map_nil, List.sum_cons, List.sum_nil,
    pending, terminal]
  omega

theorem steps_size (steps : List Step) : totalSize lineEncoding (steps.flatMap Step.lines) =
    (steps.map fun step => 18 + answerSize step.2).sum := by
  induction steps with
  | nil => rfl
  | cons step rest ih =>
    rw [List.flatMap_cons, JournalSpace.totalSize_append, step_size, ih, List.map_cons,
      List.sum_cons]

theorem fillingSteps_recording : ∀ step ∈ fillingSteps, Recording step := by
  intro step hstep
  simp only [fillingSteps, List.mem_cons, List.not_mem_nil, or_false] at hstep
  rcases hstep with rfl | rfl | rfl | rfl | rfl | rfl | rfl | rfl <;> exact ⟨rfl, rfl, rfl⟩

theorem fillingSteps_run : runs generationJournal firstTime ⟨[], emptyHost⟩
    (fillingSteps.map Prod.fst) =
      ⟨fillingSteps.flatMap Step.lines, worldAfter emptyHost (fillingSteps.map Prod.fst)⟩ := by
  refine runs_recording fillingSteps ⟨[], emptyHost⟩ fillingSteps_recording ?_ (by simp) rfl
    (by simp) (by decide) ?_
  · exact ⟨rfl, rfl, rfl, rfl, rfl, rfl, rfl, rfl, trivial⟩
  · rw [List.nil_append, steps_size]
    simp [fillingSteps, completedWith, answerSize, largeBody_length, JournalBounds.default]

theorem steps_valid (steps : List Step) : ∀ line ∈ steps.flatMap Step.lines,
    validateEntry line = true := by
  intro line hline
  obtain ⟨step, -, own⟩ := List.mem_flatMap.mp hline
  simp only [Step.lines, List.mem_cons, List.not_mem_nil, or_false] at own
  rcases own with rfl | rfl
  · rfl
  · cases step.2 <;> rfl

theorem fillingSteps_settled : unsettled [] (fillingSteps.flatMap Step.lines).reverse = [] := by
  rfl

theorem fillingSteps_size : totalSize lineEncoding (fillingSteps.flatMap Step.lines) =
    3 * (4 * 1024 * 1024) + 117 := by
  rw [steps_size]
  simp [fillingSteps, completedWith, answerSize, largeBody_length]

theorem lastStep_size : totalSize lineEncoding lastStep.lines = 4 * 1024 * 1024 + 9 := by
  rw [step_size]
  simp [lastStep, completedWith, answerSize, largeBody_length]

theorem fillingSteps_new : ∀ line ∈ fillingSteps.flatMap Step.lines,
    line.operationId ≠ (lastStep.1.call firstTime).operation.operationId := by
  decide

theorem lastStep_run : (lastStep.1.call firstTime).run generationJournal
    ⟨fillingSteps.flatMap Step.lines, worldAfter emptyHost (fillingSteps.map Prod.fst)⟩ =
      (.ok lastStep.2, ⟨openedLines generationJournal
        (fillingSteps.flatMap Step.lines ++ lastStep.lines),
        worldAfter emptyHost (fillingSteps.map Prod.fst)⟩) := by
  refine @recorded_plain lastStep _ ⟨rfl, rfl, rfl⟩ rfl (steps_valid _)
    fillingSteps_settled fillingSteps_new ?_ ?_
  · simp [fillingSteps_size, JournalBounds.default]
  · rw [JournalSpace.totalSize_append, step_size]
    simp [fillingSteps_size, lastStep, completedWith, answerSize, largeBody_length,
      JournalBounds.default]

theorem threeGenerations_run : runs generationJournal firstTime ⟨[], emptyHost⟩ threeGenerations =
    ⟨openedLines generationJournal (fillingSteps.flatMap Step.lines ++ lastStep.lines),
      worldAfter emptyHost (fillingSteps.map Prod.fst)⟩ := by
  have split : threeGenerations = fillingSteps.map Prod.fst ++ [lastStep.1] := rfl
  rw [split, runs_append, fillingSteps_run, runs, runs, lastStep_run]

def largeStep (n : ℕ) : Step := (.other (snapshotOf n), completedWith (.other largeBody))

/-- A large answer takes up a quarter of the hard budget. -/
theorem selected_large (n : ℕ) (seen : List OperationId) (budgets : Budgets)
    (older : List (JournalLine CompletionBody))
    (room : budgets.admits .default (4 * 1024 * 1024)) :
    selected lineEncoding .default seen budgets ((largeStep n).lines.reverse ++ older) =
      terminalLine ⟨n, n, .backupSnapshot⟩ 1 (completedWith (.other largeBody)) ::
        selected lineEncoding .default (n :: n :: seen) (budgets.spend (4 * 1024 * 1024)) older := by
  have order : (largeStep n).lines.reverse ++ older =
      terminalLine ⟨n, n, .backupSnapshot⟩ 1 (completedWith (.other largeBody)) ::
        pendingLine ⟨n, n, .backupSnapshot⟩ 0 :: older := rfl
  have size : lineSize lineEncoding (terminalLine ⟨n, n, .backupSnapshot⟩ 1
      (completedWith (.other largeBody))) = 4 * 1024 * 1024 := by
    rw [lineSize_lineEncoding]
    simp [terminalLine, completedWith, largeBody_length]
  have terminal := JournalSpace.terminalLine_status (β := CompletionBody)
    ⟨n, n, .backupSnapshot⟩ 1 (completedWith (.other largeBody))
  have waits : (pendingLine ⟨n, n, .backupSnapshot⟩ 0 : JournalLine CompletionBody).status =
      .pending := rfl
  rw [order, selected_cons, if_neg terminal, size, if_pos room, selected_cons, if_pos waits,
    if_pos (by simp [pendingLine, terminalLine])]
  rfl

def largeAnswer (n : ℕ) : JournalLine CompletionBody :=
  terminalLine ⟨n, n, .backupSnapshot⟩ 1 (completedWith (.other largeBody))

/-- Four large answers leave no room for anything older. -/
theorem filled_compacted : compacted generationJournal
    (fillingSteps.flatMap Step.lines ++ lastStep.lines) =
      [largeAnswer 6, largeAnswer 7, largeAnswer 8, largeAnswer 9] := by
  have order : (fillingSteps.flatMap Step.lines ++ lastStep.lines).reverse =
      (largeStep 9).lines.reverse ++ ((largeStep 8).lines.reverse ++
        ((largeStep 7).lines.reverse ++ ((largeStep 6).lines.reverse ++
          ((fillingSteps.take 5).flatMap Step.lines).reverse))) := rfl
  have budgets : initialBudgets lineEncoding .default
      (fillingSteps.flatMap Step.lines ++ lastStep.lines) =
        ⟨8 * 1024 * 1024, 16 * 1024 * 1024, 0⟩ := by
    have settled : unsettled [] (fillingSteps.flatMap Step.lines ++ lastStep.lines).reverse = [] :=
      rfl
    rw [initialBudgets, JournalSpace.reservePending_eq, settled]
    rfl
  have exhausted := selected_exhausted lineEncoding .default [6, 6, 7, 7, 8, 8, 9, 9]
    ⟨0, 0, 4⟩ ((fillingSteps.take 5).flatMap Step.lines).reverse rfl rfl
  rw [compacted, generationJournal, compactLines_lines, budgets, order,
    selected_large 9 _ _ _ (by decide), selected_large 8 _ _ _ (by decide),
    selected_large 7 _ _ _ (by decide), selected_large 6 _ _ _ (by decide)]
  simp only [Budgets.spend]
  rw [exhausted]
  rfl

/-- The journal and the host that a retry of the first uninstall finds. -/
def agedOut : Scope CompletionBody Host :=
  ⟨[largeAnswer 6, largeAnswer 7, largeAnswer 8, largeAnswer 9],
    worldAfter emptyHost (fillingSteps.map Prod.fst)⟩

theorem agedOut_document : agedOut.world.document = some (generation 5) := rfl

theorem largeAnswer_size (n : ℕ) : lineSize lineEncoding (largeAnswer n) = 4 * 1024 * 1024 := by
  rw [lineSize_lineEncoding]
  simp [largeAnswer, terminalLine, completedWith, largeBody_length]

theorem agedOut_size : totalSize lineEncoding agedOut.lines = 16 * 1024 * 1024 := by
  simp [agedOut, totalSize, largeAnswer_size]

theorem threeGenerations_agedOut :
    runs generationJournal firstTime ⟨[], emptyHost⟩ threeGenerations = agedOut := by
  have large : ¬totalSize lineEncoding (fillingSteps.flatMap Step.lines ++ lastStep.lines) ≤
      JournalBounds.default.maxBytes := by
    rw [JournalSpace.totalSize_append, fillingSteps_size, lastStep_size]
    decide
  have compacts : openedLines generationJournal
      (fillingSteps.flatMap Step.lines ++ lastStep.lines) =
        compacted generationJournal (fillingSteps.flatMap Step.lines ++ lastStep.lines) :=
    if_neg large
  rw [threeGenerations_run, compacts, filled_compacted]
  rfl

theorem agedOut_opened : openedLines generationJournal agedOut.lines = agedOut.lines :=
  if_pos (agedOut_size.trans_le (by decide))

/-- The first uninstall was answered as completed. -/
theorem first_uninstall_finished : Finished generationJournal firstTime ⟨[], emptyHost⟩
    threeGenerations (uninstallOf 2) := by
  refine ⟨[.other (bootstrapOf 1)], quiet, threeGenerations.drop 2, rfl,
    .inl ⟨.other (.stateMutateApplied 1), ?_⟩⟩
  have installed := runs_recording (fillingSteps.take 1) ⟨[], emptyHost⟩
    (fun step hstep => fillingSteps_recording step (List.mem_of_mem_take hstep))
    ⟨rfl, trivial⟩ (by simp) rfl (by simp) (by decide) (by decide)
  have first : [Submission.other (bootstrapOf 1)] = (fillingSteps.take 1).map Prod.fst := rfl
  rw [first, installed]
  have answered := @recorded_plain
    (.uninstall (uninstallOf 2) quiet, completedWith (.stateMutateApplied 1))
    ⟨(fillingSteps.take 1).flatMap Step.lines,
      worldAfter emptyHost ((fillingSteps.take 1).map Prod.fst)⟩
    ⟨rfl, rfl, rfl⟩ rfl (steps_valid _) rfl (by decide) (by decide) (by decide)
  exact congrArg Prod.fst answered

theorem uninstall_applied {sha256 : Document → Digest} {order : UninstallOrder} {e : Deletion}
    {host host' : Host} {body : CompletionBody}
    (h : uninstall sha256 order e host = (.ok body, host')) :
    ∃ revision, body = .stateMutateApplied revision := by
  obtain ⟨converged, host₁, -, h⟩ := Program.run_bind_eq_ok h
  cases converged with
  | true =>
    cases h
    exact ⟨_, rfl⟩
  | false =>
    obtain ⟨document, host₂, -, h⟩ := Program.run_bind_eq_ok h
    obtain ⟨⟨⟩, host₃, -, h⟩ := Program.run_bind_eq_ok h
    obtain ⟨⟨⟩, host₄, -, h⟩ := Program.run_bind_eq_ok h
    cases h
    exact ⟨_, rfl⟩

theorem fitting_of_small {call : Call Deletion CompletionBody Host}
    (small : ∀ world outcome world', call.execute call.attempt.execution world =
      (some outcome, world') → answerSize outcome ≤ 4 * 1024 * 1024) :
    JournalSpace.Fitting generationJournal call := by
  rintro line ⟨world, outcome, world', run, rfl⟩
  have bound := small world outcome world' run
  have size : lineSize lineEncoding
      (terminalLine call.operation call.attempt.completedAt outcome) = 9 + answerSize outcome := by
    rw [lineSize_lineEncoding]
    rcases outcome with ⟨⟨revision⟩ | ⟨⟨revision⟩ | ⟨body⟩⟩⟩ | ⟨code, detail⟩ <;> rfl
  have room : 9 + 4 * 1024 * 1024 ≤
      JournalBounds.default.maxBytes - JournalBounds.default.maxPendingBytes := by decide
  exact (size.trans_le (Nat.add_le_add_left bound 9)).trans room

theorem uninstall_fitting (n : ℕ) (attempt : JournaledCalls.Attempt Deletion) :
    JournalSpace.Fitting generationJournal ((uninstallOf n).call firstTime attempt) := by
  refine fitting_of_small fun world outcome world' run => ?_
  have run : executeUninstall firstTime (uninstallOf n) attempt.execution world =
      (some outcome, world') := run
  unfold executeUninstall at run
  rcases h : uninstall firstTime (uninstallOf n) attempt.execution world with
    ⟨body | refusal | _, host⟩
  · obtain ⟨revision, rfl⟩ := uninstall_applied h
    simp only [h, Prod.mk.injEq, Option.some.injEq] at run
    simp [← run.1, answerSize]
  · simp only [h, Prod.mk.injEq, Option.some.injEq] at run
    simp [← run.1, answerSize]
  · simp [h] at run

theorem bootstrap_fitting (n : ℕ) :
    JournalSpace.Fitting generationJournal (bootstrapOf n).call := by
  refine fitting_of_small fun world outcome world' run => ?_
  simp only [bootstrapOf] at run
  cases present : world.document with
  | none =>
    simp only [present, Prod.mk.injEq, Option.some.injEq] at run
    simp [← run.1, answerSize]
  | some document =>
    simp only [present, Prod.mk.injEq, Option.some.injEq] at run
    simp [← run.1, answerSize]

theorem snapshot_fitting (n : ℕ) :
    JournalSpace.Fitting generationJournal (snapshotOf n).call := by
  refine fitting_of_small fun world outcome world' run => ?_
  simp only [snapshotOf, Prod.mk.injEq, Option.some.injEq] at run
  simp [← run.1, answerSize, largeBody_length]

theorem threeGenerations_fitting : ∀ submission ∈ threeGenerations,
    JournalSpace.Fitting generationJournal (submission.call firstTime) := by
  intro submission hsubmission
  simp only [threeGenerations, List.mem_cons, List.not_mem_nil, or_false] at hsubmission
  rcases hsubmission with rfl | rfl | rfl | rfl | rfl | rfl | rfl | rfl | rfl
  · exact bootstrap_fitting 1
  · exact uninstall_fitting 2 quiet
  · exact bootstrap_fitting 3
  · exact uninstall_fitting 4 quiet
  · exact bootstrap_fitting 5
  · exact snapshot_fitting 6
  · exact snapshot_fitting 7
  · exact snapshot_fitting 8
  · exact snapshot_fitting 9

/-- The retry of the first uninstall takes the document of the third generation. -/
theorem agedOut_retry_deletes :
    (((uninstallOf 2).call firstTime quiet).run generationJournal agedOut).2.world.document =
      none := by
  have reachable := @runs_reachable generationJournal firstTime ⟨[], emptyHost⟩ threeGenerations
    threeGenerations_fitting (.absent emptyHost)
  rw [threeGenerations_agedOut] at reachable
  obtain ⟨outcome, answer⟩ := call_answers JournalSpace.default_roomy
    ((uninstallOf 2).call firstTime quiet) agedOut
    (JournalSpace.readable_reachable JournalSpace.default_roomy reachable)
    (uninstall_fitting 2 quiet) (fun _ => rfl) (fun world => uninstall_returns (fun _ => rfl) world)
  have dispatched := call_dispatched generationJournal ((uninstallOf 2).call firstTime quiet)
    agedOut
  rw [answer, agedOut_opened] at dispatched
  generalize (((uninstallOf 2).call firstTime quiet).run generationJournal agedOut).2.world = world
    at dispatched ⊢
  have agrees : conflicting (uninstallOf 2).operation agedOut.lines = none := rfl
  have unanswered : storedAnswer (uninstallOf 2).operation agedOut.lines = none := rfl
  have room : admitted generationJournal (uninstallOf 2).operation 0 agedOut.lines := by
    right
    have settled : unsettled [] agedOut.lines.reverse = [] := rfl
    have pending : lineSize generationJournal.encode
        (pendingLine (uninstallOf 2).operation 0) = 9 := by decide
    rw [settled, pending]
    decide
  cases dispatched with
  | unanswered none => exact absurd rfl (none outcome)
  | conflict found => exact absurd (agrees.symm.trans found) (by simp)
  | stored _ answer => exact absurd (unanswered.symm.trans answer) (by simp)
  | refused _ _ full => exact absurd room full
  | executed _ _ _ _ => rfl

/-- The first uninstall completed, its lines aged out, a second uninstall wrote the completion
record, and the retry of the first deletes the third generation. -/
theorem third_generation_deleted :
    Finished generationJournal firstTime ⟨[], emptyHost⟩ threeGenerations (uninstallOf 2) ∧
      (runs generationJournal firstTime ⟨[], emptyHost⟩ threeGenerations).world.document =
        some (generation 5) ∧
      (runs generationJournal firstTime ⟨[], emptyHost⟩
        (threeGenerations ++ [.uninstall (uninstallOf 2) quiet])).world.document = none ∧
      ¬GenerationsSpared generationJournal firstTime ⟨[], emptyHost⟩
        (threeGenerations ++ [.uninstall (uninstallOf 2) quiet]) := by
  refine ⟨first_uninstall_finished, ?_, ?_, fun spared => ?_⟩
  · rw [threeGenerations_agedOut, agedOut_document]
  · have same : (Submission.uninstall (uninstallOf 2) quiet).call firstTime =
        (uninstallOf 2).call firstTime quiet := rfl
    rw [runs_append, threeGenerations_agedOut, runs, runs, same]
    exact agedOut_retry_deletes
  · have kept := (spared threeGenerations (uninstallOf 2) quiet [] rfl
      first_uninstall_finished).document
    rw [threeGenerations_agedOut] at kept
    have deleted := agedOut_retry_deletes.symm.trans kept
    rw [agedOut_document] at deleted
    exact absurd deleted (by simp)

/-- An uninstall of the first generation and the installation of another one. -/
def reinstallingSteps : List Step :=
  [(.uninstall (uninstallOf 2) quiet, completedWith (.stateMutateApplied 1)),
    (.other (bootstrapOf 3), completedWith (.stateMutateApplied 1))]

def firstGeneration : Scope CompletionBody Host :=
  ⟨[], { emptyHost with document := some (generation 1) }⟩

def reinstalled : Scope CompletionBody Host :=
  ⟨reinstallingSteps.flatMap Step.lines,
    worldAfter firstGeneration.world (reinstallingSteps.map Prod.fst)⟩

theorem reinstalled_generation_kept :
    (((uninstallOf 2).call firstTime quiet).run generationJournal reinstalled).2.world.document =
      some (generation 3) := by
  have recording : ∀ step ∈ reinstallingSteps, Recording step := by
    intro step member
    simp only [reinstallingSteps, List.mem_cons, List.not_mem_nil, or_false] at member
    rcases member with rfl | rfl
    · exact ⟨rfl, rfl, rfl⟩
    · exact ⟨rfl, rfl, rfl⟩
  have first := runs_recording (reinstallingSteps.take 1) firstGeneration
    (fun step member => recording step (List.mem_of_mem_take member)) ⟨rfl, trivial⟩
    (by simp [firstGeneration]) rfl (by simp [firstGeneration]) (by decide) (by decide)
  have reached := runs_recording reinstallingSteps firstGeneration recording ⟨rfl, rfl, trivial⟩
    (by simp [firstGeneration]) rfl (by simp [firstGeneration]) (by decide) (by decide)
  have removed := congrArg (fun scope => scope.world.document) first
  have present : firstGeneration.world.document ≠ none := by simp [firstGeneration]
  refine later_generation_kept present removed ?_ reached ?_
  · intro before other attempt after split
    rcases before with _ | ⟨step, _ | ⟨second, more⟩⟩
    · simp at split
    · simp at split
    · simp at split
  · rintro completion ⟨⟩ document ⟨⟩
    decide

/-- An uninstall that is sent twice. -/
def sentTwice : List Submission :=
  [.other (bootstrapOf 1), .uninstall (uninstallOf 2) quiet, .uninstall (uninstallOf 2) quiet]

theorem sentTwice_fitting : ∀ submission ∈ sentTwice,
    JournalSpace.Fitting generationJournal (submission.call firstTime) := by
  intro submission hsubmission
  simp only [sentTwice, List.mem_cons, List.not_mem_nil, or_false] at hsubmission
  rcases hsubmission with rfl | rfl | rfl
  · exact bootstrap_fitting 1
  · exact uninstall_fitting 2 quiet
  · exact uninstall_fitting 2 quiet

theorem sentTwice_spared : GenerationsSpared generationJournal firstTime ⟨[], emptyHost⟩
    sentTwice := by
  refine (generations_spared lineEncoding firstTime emptyHost sentTwice sentTwice_fitting).1 ?_
  rintro before order attempt after split ⟨earlier, first, later, rfl, -⟩
  have ran := runs_recording (fillingSteps.take 2) ⟨[], emptyHost⟩
    (fun step hstep => fillingSteps_recording step (List.mem_of_mem_take hstep))
    ⟨rfl, rfl, trivial⟩ (by simp) rfl (by simp) (by decide) (by decide)
  rcases earlier with _ | ⟨boot, _ | ⟨second, rest⟩⟩
  · exact absurd (congrArg List.head? split) (by simp [sentTwice])
  · simp only [sentTwice, List.cons_append, List.nil_append, List.cons.injEq,
      Submission.uninstall.injEq] at split
    obtain ⟨rfl, ⟨rfl, rfl⟩, last⟩ := split
    obtain ⟨rfl, rfl⟩ : later = [] ∧ attempt = quiet := by
      rcases later with _ | ⟨third, more⟩
      · simp only [List.nil_append, List.cons.injEq, Submission.uninstall.injEq] at last
        exact ⟨rfl, last.1.2.symm⟩
      · exact absurd (congrArg List.length last) (by simp)
    have steps : [Submission.other (bootstrapOf 1)] ++ [.uninstall (uninstallOf 2) quiet] =
        (fillingSteps.take 2).map Prod.fst := rfl
    have shielded : Shielded generationJournal firstTime (uninstallOf 2) 0
        (runs generationJournal firstTime ⟨[], emptyHost⟩
          ((fillingSteps.take 2).map Prod.fst)) := by
      rw [ran]
      exact ⟨rfl, .inl ⟨.other (.stateMutateApplied 1), rfl⟩⟩
    rw [steps]
    exact shielded
  · have lengths := congrArg List.length split
    simp [sentTwice] at lengths
    omega

end NazoAuthCtl.UninstallGenerations
