import NazoAuthCtl.FileNames
import NazoAuthCtl.TargetState

/-!
# Where a deployment keeps its files

The target keeps state, journal and locks of a deployment under its state root, the
controller keys, a pending uninstall and intents under its own two roots. Five names
are built with `Path::with_extension`, two of them from the deployment id itself.
-/

set_option autoImplicit false
set_option linter.all false

namespace NazoAuthCtl.DeploymentPaths

open FileNames TargetState

/-- `deployment_scope` and `validate_instance_identifier`. -/
def isDeploymentScope (deploymentId : DeploymentId) : Bool :=
  deploymentId ≠ "" && deploymentId.utf8ByteSize ≤ 128 && deploymentId ≠ "." && deploymentId ≠ ".."
    && deploymentId.toList.all (fun c => c.isAlphanum || ".:_+-".toList.contains c)

/-! ## Under the target state root -/

section target

variable (root : Path) (deploymentId : DeploymentId)

def scopePath : Path := root ++ ["deployments", deploymentId]

def statePath : Path := scopePath root deploymentId ++ ["state.json"]

def journalPath : Path := scopePath root deploymentId ++ ["operations.jsonl"]

/-- The lock of `run_journaled`. -/
def journalLock : Path := withExtension (journalPath root deploymentId) "lock"

/-- `TargetStateStore::lock_path`. -/
def lockPath : Path := withExtension (scopePath root deploymentId) "lock"

def uninstallCompletion : Path := scopePath root deploymentId ++ ["uninstall-complete.json"]

def targetPaths : List Path :=
  [scopePath root deploymentId, statePath root deploymentId, journalPath root deploymentId,
    journalLock root deploymentId, lockPath root deploymentId,
    uninstallCompletion root deploymentId]

end target

/-! ## Under the controller's roots -/

section controller

variable (configRoot : Path) (deploymentId : DeploymentId)

def keyRoot : Path := configRoot ++ ["nazoauthctl", "controller-keys"]

def registryRoot : Path := configRoot ++ ["nazoauthctl", "registry"]

def instanceDir : Path := keyRoot configRoot ++ [deploymentId]

def keysDir : Path := instanceDir configRoot deploymentId ++ ["keys"]

def activePath : Path := instanceDir configRoot deploymentId ++ ["active.json"]

def keysLock : Path := instanceDir configRoot deploymentId ++ ["keys.lock"]

/-- The pending uninstall, beside the key directory that it is to survive. -/
def pendingUninstall : Path := withExtension (instanceDir configRoot deploymentId) "uninstall.json"

/-- The directory of `HostIntent::open`. -/
def intentDirectory : Path := registryRoot configRoot ++ ["lifecycle-intents", deploymentId]

def lifecycleLock : Path := intentDirectory configRoot deploymentId ++ ["lifecycle.lock"]

def intentPath (action : String) : Path :=
  intentDirectory configRoot deploymentId ++ [action ++ ".json"]

def lifecycleActions : List String := ["update", "rollback", "backup", "uninstall"]

def controllerPaths : List Path :=
  [instanceDir configRoot deploymentId, keysDir configRoot deploymentId,
    activePath configRoot deploymentId, keysLock configRoot deploymentId,
    pendingUninstall configRoot deploymentId, intentDirectory configRoot deploymentId,
    lifecycleLock configRoot deploymentId]
    ++ lifecycleActions.map (intentPath configRoot deploymentId)

end controller

/-! ## Paths of two deployments -/

/-- No file or directory of one deployment is one of the other or lies below one. -/
def SeparatePaths (stateRoot configRoot : Path) (deploymentId other : DeploymentId) : Prop :=
  (∀ path ∈ targetPaths stateRoot deploymentId, ∀ path' ∈ targetPaths stateRoot other,
    Apart path path') ∧
  ∀ path ∈ controllerPaths configRoot deploymentId, ∀ path' ∈ controllerPaths configRoot other,
    Apart path path'

section separate

variable {root : Path} {deploymentId other : DeploymentId}

theorem isDeploymentScope_named (legal : isDeploymentScope deploymentId = true) :
    deploymentId ≠ "" ∧ deploymentId ≠ ".." := by
  simp only [isDeploymentScope, Bool.and_eq_true, decide_eq_true_eq] at legal
  exact ⟨legal.1.1.1.1, legal.1.2⟩

theorem lockPath_eq (legal : isDeploymentScope deploymentId = true) :
    lockPath root deploymentId = root ++ ["deployments", replaceExtension deploymentId "lock"] := by
  have named := withExtension_append (root ++ ["deployments"]) (isDeploymentScope_named legal).2
    "lock"
  simpa [lockPath, scopePath] using named

theorem journalLock_eq :
    journalLock root deploymentId = scopePath root deploymentId ++ ["operations.lock"] := by
  have named := withExtension_append (scopePath root deploymentId)
    (show "operations.jsonl" ≠ ".." by decide) "lock"
  rw [journalLock, journalPath, named]
  rfl

theorem pendingUninstall_eq (legal : isDeploymentScope deploymentId = true) :
    pendingUninstall root deploymentId =
      keyRoot root ++ [replaceExtension deploymentId "uninstall.json"] :=
  withExtension_append (keyRoot root) (isDeploymentScope_named legal).2 "uninstall.json"

end separate

section entries

variable (root : Path) (deploymentId : DeploymentId)

/-- What a deployment has beside the others in `deployments`. -/
def targetEntries : List Path := [scopePath root deploymentId, lockPath root deploymentId]

/-- What it has beside the others in the two controller roots. -/
def controllerEntries : List Path :=
  [instanceDir root deploymentId, pendingUninstall root deploymentId,
    intentDirectory root deploymentId]

theorem targetPaths_below (path : Path) (member : path ∈ targetPaths root deploymentId) :
    ∃ entry ∈ targetEntries root deploymentId, entry <+: path := by
  simp only [targetPaths, List.mem_cons, List.not_mem_nil, or_false] at member
  rcases member with rfl | rfl | rfl | rfl | rfl | rfl
  · exact ⟨_, List.mem_cons_self, List.prefix_rfl⟩
  · exact ⟨_, List.mem_cons_self, List.prefix_append _ _⟩
  · exact ⟨_, List.mem_cons_self, List.prefix_append _ _⟩
  · exact ⟨_, List.mem_cons_self, journalLock_eq ▸ List.prefix_append _ _⟩
  · exact ⟨_, List.mem_cons_of_mem _ List.mem_cons_self, List.prefix_rfl⟩
  · exact ⟨_, List.mem_cons_self, List.prefix_append _ _⟩

theorem controllerPaths_below (path : Path) (member : path ∈ controllerPaths root deploymentId) :
    ∃ entry ∈ controllerEntries root deploymentId, entry <+: path := by
  have intents : intentDirectory root deploymentId ∈ controllerEntries root deploymentId := by
    simp [controllerEntries]
  simp only [controllerPaths, List.mem_append, List.mem_cons, List.not_mem_nil, or_false,
    List.mem_map] at member
  rcases member with (rfl | rfl | rfl | rfl | rfl | rfl | rfl) | ⟨action, -, rfl⟩
  · exact ⟨_, List.mem_cons_self, List.prefix_rfl⟩
  · exact ⟨_, List.mem_cons_self, List.prefix_append _ _⟩
  · exact ⟨_, List.mem_cons_self, List.prefix_append _ _⟩
  · exact ⟨_, List.mem_cons_self, List.prefix_append _ _⟩
  · exact ⟨_, List.mem_cons_of_mem _ List.mem_cons_self, List.prefix_rfl⟩
  · exact ⟨_, intents, List.prefix_rfl⟩
  · exact ⟨_, intents, List.prefix_append _ _⟩
  · exact ⟨_, intents, List.prefix_append _ _⟩

theorem targetEntries_listed :
    targetEntries root deploymentId ⊆ targetPaths root deploymentId := by
  simp [targetEntries, targetPaths]

theorem controllerEntries_listed :
    controllerEntries root deploymentId ⊆ controllerPaths root deploymentId := by
  simp [controllerEntries, controllerPaths]

end entries

section names

variable {stateRoot configRoot : Path} {a b : DeploymentId}

theorem targetEntries_apart (legal : isDeploymentScope a = true)
    (legal' : isDeploymentScope b = true) :
    (∀ entry ∈ targetEntries stateRoot a, ∀ entry' ∈ targetEntries stateRoot b,
      Apart entry entry') ↔
      (a ≠ b ∧ a ≠ replaceExtension b "lock") ∧
        replaceExtension a "lock" ≠ b ∧ replaceExtension a "lock" ≠ replaceExtension b "lock" := by
  have scope : ∀ name : String,
      stateRoot ++ ["deployments", name] = (stateRoot ++ ["deployments"]) ++ [name] := by simp
  simp only [targetEntries, List.forall_mem_cons, List.not_mem_nil, false_implies, implies_true,
    and_true, lockPath_eq legal, lockPath_eq legal', scopePath, scope, apart_names]

theorem controllerEntries_apart (legal : isDeploymentScope a = true)
    (legal' : isDeploymentScope b = true) :
    (∀ entry ∈ controllerEntries configRoot a, ∀ entry' ∈ controllerEntries configRoot b,
      Apart entry entry') ↔
      (a ≠ b ∧ a ≠ replaceExtension b "uninstall.json") ∧
        replaceExtension a "uninstall.json" ≠ b ∧
          replaceExtension a "uninstall.json" ≠ replaceExtension b "uninstall.json" := by
  have keys : ∀ name : String, keyRoot configRoot ++ [name] =
      (configRoot ++ ["nazoauthctl"]) ++ ["controller-keys", name] := by simp [keyRoot]
  have intents : ∀ name : String, intentDirectory configRoot name =
      (configRoot ++ ["nazoauthctl"]) ++ ["registry", "lifecycle-intents", name] := by
    simp [intentDirectory, registryRoot]
  have beside : ∀ name name' : String, Apart (keyRoot configRoot ++ [name])
      (intentDirectory configRoot name') := by
    intro name name'
    rw [keys, intents]
    exact apart_directories _ _ _ (by decide)
  have apart : Apart (intentDirectory configRoot a) (intentDirectory configRoot b) ↔ a ≠ b := by
    have directory : ∀ name : String, intentDirectory configRoot name =
        (registryRoot configRoot ++ ["lifecycle-intents"]) ++ [name] := by simp [intentDirectory]
    rw [directory, directory, apart_names]
  have beside' : ∀ name name' : String, Apart (intentDirectory configRoot name')
      (keyRoot configRoot ++ [name]) := fun name name' => (beside name name').symm
  simp only [controllerEntries, List.forall_mem_cons, List.not_mem_nil, false_implies,
    implies_true, and_true, pendingUninstall_eq legal, pendingUninstall_eq legal', instanceDir,
    apart_names, beside, beside', apart]
  tauto

/-- Two deployments keep apart exactly if their ids have two stems and neither id is the name of
the other's pending uninstall. -/
theorem deployments_keep_apart (stateRoot configRoot : Path)
    (legal : isDeploymentScope a = true) (legal' : isDeploymentScope b = true) (distinct : a ≠ b) :
    SeparatePaths stateRoot configRoot a b ↔
      fileStem a ≠ fileStem b ∧ a ≠ fileStem b ++ ".uninstall.json" ∧
        b ≠ fileStem a ++ ".uninstall.json" := by
  have lock : ∀ id, isDeploymentScope id = true →
      fileStem (replaceExtension id "lock") = fileStem id :=
    fun id legal => fileStem_append (fileStem_nonempty (isDeploymentScope_named legal).1)
      (by decide)
  rw [SeparatePaths,
    apart_iff_entries (targetPaths_below stateRoot a) (targetPaths_below stateRoot b)
      (targetEntries_listed _ _) (targetEntries_listed _ _),
    apart_iff_entries (controllerPaths_below configRoot a) (controllerPaths_below configRoot b)
      (controllerEntries_listed _ _) (controllerEntries_listed _ _),
    targetEntries_apart legal legal', controllerEntries_apart legal legal']
  constructor
  · rintro ⟨⟨-, -, locks⟩, ⟨-, pendingB⟩, pendingA, -⟩
    exact ⟨fun stems => locks (congrArg (· ++ ("." ++ "lock")) stems), pendingB, Ne.symm pendingA⟩
  · rintro ⟨stems, pendingB, pendingA⟩
    refine ⟨⟨⟨distinct, fun same => ?_⟩, fun same => ?_, fun same => ?_⟩,
      ⟨distinct, pendingB⟩, Ne.symm pendingA, fun same => ?_⟩
    · exact stems (same ▸ lock b legal')
    · exact stems (same ▸ (lock a legal).symm)
    · exact stems ((append_right_inj _).mp same)
    · exact stems ((append_right_inj _).mp same)

theorem named_deployments_apart : SeparatePaths ["var", "lib"] ["etc"] "alpha" "beta.eu" :=
  (deployments_keep_apart ["var", "lib"] ["etc"] (by decide) (by decide) (by decide)).mpr
    ⟨by decide, by decide, by decide⟩

/-- Two deployments of one domain have one state lock and one pending uninstall. -/
theorem dotted_deployments_collide :
    ¬∀ (stateRoot configRoot : Path) (a b : DeploymentId), isDeploymentScope a = true →
      isDeploymentScope b = true → a ≠ b → SeparatePaths stateRoot configRoot a b := by
  intro separate
  have shared := (separate [] [] "auth.eu" "auth.us" (by decide) (by decide) (by decide)).1
    (lockPath [] "auth.eu") (by simp [targetPaths]) (lockPath [] "auth.us") (by simp [targetPaths])
  exact absurd shared (by decide)

end names

end NazoAuthCtl.DeploymentPaths
