import NazoAuthCtl.ContainerUndo
import NazoAuthCtl.RecoveryWorld

/-!
# The surface of a container through its replacements

`start_container_runtime` creates the first container of a deployment from a plan. Every
later one is made from a single inspection of the container it replaces, so what that
inspection does not show is lost. Docker shows the published ports of a running container
only.
-/

set_option autoImplicit false
set_option linter.all false

namespace NazoAuthCtl.ContainerSurface

open FaultProgram TargetState TargetWorld UpdateExec RollbackExec LifecycleDispatch UpdateAdmission
  UpdateSteps UpdateResume RollbackResume CrashResume UpdateUndo ContainerUndo RecoveryWorld
open Program

/-! ## The installed container -/

inductive ContainerRestartPolicy where
  | no
  | onFailure
  | always
  | unlessStopped
  deriving DecidableEq, Repr

structure NeutralTmpfs where
  destination : Path
  readOnly : Bool
  noExec : Bool
  noSuid : Bool
  noDevice : Bool
  sizeBytes : ℕ
  deriving DecidableEq, Repr

structure ContainerRuntimePolicy where
  restart : ContainerRestartPolicy
  serviceUser : Option String
  readOnlyRoot : Bool
  noNewPrivileges : Bool
  dropAllCapabilities : Bool
  pidsLimit : Option ℕ
  memoryLimitBytes : Option ℕ
  cpuLimitMillis : Option ℕ
  tmpfs : List NeutralTmpfs
  deriving DecidableEq, Repr

def managedTmpfs (destination : Path) (sizeBytes : ℕ) : NeutralTmpfs where
  destination
  readOnly := false
  noExec := true
  noSuid := true
  noDevice := true
  sizeBytes

/-- `ContainerRuntimePolicy::managed_default`. -/
def managedDefault : ContainerRuntimePolicy where
  restart := .unlessStopped
  serviceUser := none
  readOnlyRoot := true
  noNewPrivileges := true
  dropAllCapabilities := true
  pidsLimit := some 512
  memoryLimitBytes := some (1024 * 1024 * 1024)
  cpuLimitMillis := some 2000
  tmpfs := [managedTmpfs ["tmp"] (64 * 1024 * 1024),
    managedTmpfs ["run", "postgresql"] (16 * 1024 * 1024)]

/-- The policy of a replacement, which depends on its artifact alone. -/
def containerPolicy : ArtifactReference → Option ContainerRuntimePolicy
  | .oci _ _ => some managedDefault
  | _ => none

/-- What `start_container_runtime` is told. -/
structure ContainerInstall where
  deploymentId : DeploymentId
  repository : String
  digest : Digest
  configReference : Path
  dataRoot : Path
  scopeDir : Path
  loopbackPort : ℕ
  secrets : List (String × Path)
  tlsMount : Option NeutralMount
  publicPorts : List (ℕ × ℕ)
  deriving DecidableEq, Repr

def databaseSecrets : List String := ["database-runtime-url", "database-lifecycle-url", "valkey-url"]

def secretVariables : Variables :=
  [("mfa-totp-key", "MFA_TOTP_ENCRYPTION_KEY_FILE"),
    ("signing-key-encryption-key", "SIGNING_KEY_ENCRYPTION_KEY_FILE"),
    ("client-secret-pepper", "CLIENT_SECRET_PEPPER_FILE"),
    ("dynamic-registration-token", "DYNAMIC_CLIENT_REGISTRATION_INITIAL_ACCESS_TOKEN_FILE"),
    ("openid4vc-data-encryption-key", "OPENID4VC_DATA_ENCRYPTION_KEY_FILE"),
    ("openid4vci-management-token", "OPENID4VCI_ISSUER_MANAGEMENT_TOKEN_FILE"),
    ("openid4vp-management-token", "OPENID4VP_VERIFIER_MANAGEMENT_TOKEN_FILE")]

def insertVariable (name value : String) (values : Variables) : Variables :=
  (name, value) :: values.filter (·.1 ≠ name)

def baseEnvironment (deploymentId : DeploymentId) : Variables :=
  [("NAZOAUTH_SERVER_CONFIG_FILE", "/app/.env.yaml"), ("DATA_DIR", "/var/lib/nazo_oauth"),
    ("DEPLOYMENT_ID", deploymentId),
    ("NAZOAUTH_OPERATOR_CONFIG_REVISION_FILE", "/run/nazoauth-operator/config-revision")]

/-- One secret's variable. The database and Valkey URLs have none. -/
def addSecret (environment : Variables) (secret : String × Path) : Except Failure Variables :=
  if secret.1 ∈ databaseSecrets then .ok environment
  else match secretVariables.lookup secret.1 with
    | some name => .ok (insertVariable name ("/run/secrets/" ++ secret.1) environment)
    | none => .error ⟨.hostErrOperationInvalid, "unsupported install secret purpose"⟩

def installedMounts (job : ContainerInstall) : List NeutralMount :=
  [⟨job.configReference, ["app", ".env.yaml"], true⟩,
    ⟨job.dataRoot, ["var", "lib", "nazo_oauth"], false⟩] ++ job.tlsMount.toList
    ++ (job.secrets.filter (·.1 ∉ databaseSecrets)).map
      (fun secret => ⟨secret.2, containerSecretsDir ++ [secret.1], true⟩)
    ++ [⟨job.scopeDir ++ ["config-revision"], ["run", "nazoauth-operator", "config-revision"], true⟩]

def installedPorts (job : ContainerInstall) : List PortBinding :=
  ⟨s!"127.0.0.1:{job.loopbackPort}", "8000/tcp"⟩ :: job.publicPorts.map fun (outside, inside) =>
    ⟨s!"0.0.0.0:{outside}", s!"{inside}/tcp"⟩

/-- The replacement that `start_container_runtime` builds. -/
def installReplacement (job : ContainerInstall) : Except Failure RuntimeReplacement := do
  let environment ← job.secrets.foldlM addSecret (baseEnvironment job.deploymentId)
  .ok {
    artifact := .oci job.repository job.digest
    mounts := installedMounts job
    environment
    networks := []
    ports := installedPorts job
    labels := [(ownershipLabel, job.deploymentId)] }

/-! ## Surfaces -/

def stateEpochVariable : String := "VALKEY_STATE_EPOCH"

/-- What a container shows of itself to its surroundings, the state epoch aside. -/
structure Surface where
  ports : List PortBinding
  mounts : List NeutralMount
  networks : List String
  labels : Variables
  environment : Variables
  policy : Option ContainerRuntimePolicy
  deriving DecidableEq, Repr

def surfaceOf (object : RuntimeObject) : Surface where
  ports := object.ports
  mounts := object.mounts
  networks := object.networks
  labels := object.labels
  environment := object.environment.filter (·.1 ≠ stateEpochVariable)
  policy := containerPolicy object.artifact

/-- A surface that an inspection of a running container shows as it is. -/
structure Managed (surface : Surface) : Prop where
  safe : ∀ entry ∈ surface.environment, entry.1 ∈ safeVariables
  policy : surface.policy = some managedDefault

@[simp] theorem surfaceOf_halted (object : RuntimeObject) :
    surfaceOf object.halted = surfaceOf object := rfl

@[simp] theorem surfaceOf_launched (object : RuntimeObject) :
    surfaceOf object.launched = surfaceOf object := rfl

theorem addSecret_safe {environment environment' : Variables} {secret : String × Path}
    (safe : ∀ entry ∈ environment, entry.1 ∈ safeVariables)
    (added : addSecret environment secret = .ok environment') :
    ∀ entry ∈ environment', entry.1 ∈ safeVariables := by
  unfold addSecret at added
  split at added
  · cases added
    exact safe
  · split at added
    · rename_i name found
      cases added
      intro entry member
      rcases List.mem_cons.mp member with rfl | kept
      · have named : ∀ entry ∈ secretVariables, entry.2 ∈ safeVariables := by decide
        obtain ⟨before, after, split, -⟩ := List.lookup_eq_some_iff.mp found
        exact named (secret.1, name) (by simp [split])
      · exact safe entry (List.mem_filter.mp kept).1
    · cases added

theorem installed_safe {secrets : List (String × Path)} {environment environment' : Variables}
    (safe : ∀ entry ∈ environment, entry.1 ∈ safeVariables)
    (added : secrets.foldlM addSecret environment = .ok environment') :
    ∀ entry ∈ environment', entry.1 ∈ safeVariables := by
  induction secrets generalizing environment with
  | nil =>
    cases added
    exact safe
  | cons secret secrets ih =>
    rw [List.foldlM_cons] at added
    obtain ⟨next, first, rest⟩ := bind_eq_ok added
    exact ih (addSecret_safe safe first) rest

/-- Every installed container has a managed surface. -/
theorem installReplacement_managed {job : ContainerInstall} {installed : RuntimeReplacement}
    (planned : installReplacement job = .ok installed) :
    Managed (surfaceOf (createdObject installed)) := by
  obtain ⟨environment, added, built⟩ := bind_eq_ok planned
  cases built
  refine ⟨?_, rfl⟩
  intro entry member
  refine installed_safe ?_ added entry (List.mem_filter.mp member).1
  simp [baseEnvironment, safeVariables]

/-! ## Replacements keep a surface that was shown -/

/-- Every container that stands or was ever created has the surface. -/
structure Kept (surface : Surface) (w : World) : Prop where
  stands : ∀ object ∈ w.runtime, surfaceOf object = surface
  created : ∀ object, .created object ∈ w.history → surfaceOf object = surface

/-- A container made of the replacement has the surface. -/
def Fits (surface : Surface) (replacement : RuntimeReplacement) : Prop :=
  ∀ reference digest, replacement.artifact = .oci reference digest →
    surfaceOf (createdObject replacement) = surface

/-- A program that keeps a surface, whatever it is run on. -/
def Preserves {α : Type} (surface : Surface) (p : Exec α) : Prop :=
  Keeps p fun w w' => Kept surface w → Kept surface w'

/-- An inspection shows the published ports. -/
def ShowsPorts (platform : Platform) (w : World) : Prop :=
  platform.reportsStoppedPorts = true ∨ ∀ object ∈ w.runtime, object.running = true

section surface

variable {surface : Surface} {kind : RuntimeBackendKind} {w w' : World} {α β : Type}

theorem Kept.same (kept : Kept surface w) (runtime : w'.runtime = w.runtime)
    (history : w'.history = w.history) : Kept surface w' :=
  ⟨by rw [runtime]; exact kept.stands, by rw [history]; exact kept.created⟩

theorem Kept.removed (kept : Kept surface w) : Kept surface (w.after none .removed) where
  stands := by simp
  created object member := by
    rcases List.mem_cons.mp member with new | old
    · cases new
    · exact kept.created object old

/-- Starting or stopping the container. -/
theorem Kept.switched (kept : Kept surface w) {object object' : RuntimeObject}
    {event : RuntimeEvent} (present : w.runtime = some object)
    (same : surfaceOf object' = surfaceOf object) (switch : ∀ created, event ≠ .created created) :
    Kept surface (w.after (some object') event) where
  stands found here := by
    cases here
    exact same.trans (kept.stands object present)
  created found member := by
    rcases List.mem_cons.mp member with new | old
    · exact absurd new.symm (switch found)
    · exact kept.created found old

theorem Kept.sourceRemoved (kept : Kept surface w) : Kept surface (sourceRemoved w) := by
  unfold UpdateSteps.sourceRemoved
  cases w.runtime with
  | none => exact kept
  | some object => exact kept.removed

theorem Kept.replaced {replacement : RuntimeReplacement} {o : Outcome Failure Unit}
    (kept : Kept surface w) (container : kind.isContainer) (fits : Fits surface replacement)
    (replaced : Replaced kind replacement w o w') : Kept surface w' := by
  cases replaced with
  | kept => exact kept
  | removed => exact kept.sourceRemoved
  | unitStopped _ _ unit => simp [container] at unit
  | overwritten unit => simp [container] at unit
  | created _ reference digest artifact =>
    have new := fits reference digest artifact
    constructor
    · rintro object here
      cases here
      exact new
    · intro object member
      rcases List.mem_cons.mp member with fresh | old
      · cases fresh
        exact new
      · exact kept.sourceRemoved.created object old

/-- The one place where a surface can be lost. -/
theorem fits_of_observed {platform : Platform} {object : RuntimeObject}
    (managed : Managed surface) (container : kind.isContainer)
    (same : surfaceOf object = surface)
    (shown : platform.reportsStoppedPorts = true ∨ object.running = true)
    (artifact : ArtifactReference) :
    Fits surface (surfaceWith (observation platform kind object) artifact) := by
  rintro reference digest bound
  have bound : artifact = .oci reference digest := bound
  have declared : object.environment.filter (·.1 ≠ stateEpochVariable) = surface.environment :=
    congrArg Surface.environment same
  have environment : (safeEnvironment object.environment).filter (·.1 ≠ stateEpochVariable) =
      surface.environment := by
    have swapped : (safeEnvironment object.environment).filter (·.1 ≠ stateEpochVariable) =
        safeEnvironment (object.environment.filter (·.1 ≠ stateEpochVariable)) := by
      simp only [safeEnvironment, List.filter_filter, Bool.and_comm]
    rw [swapped, declared]
    exact List.filter_eq_self.mpr fun entry member => by simpa using managed.safe entry member
  have policy : containerPolicy object.artifact = some managedDefault :=
    (congrArg Surface.policy same).trans managed.policy
  have ports : object.running = true ∨ platform.reportsStoppedPorts = true := shown.symm
  rw [← same]
  unfold surfaceOf createdObject surfaceWith
  have bound' : containerPolicy (.oci reference digest) = some managedDefault := rfl
  simp only [observation, container, ports, true_and, if_true, environment, ← declared, bound,
    policy, bound']

/-! ## Programs that keep a surface -/

theorem preserves_trans (w₁ w₂ w₃ : World) (h : Kept surface w₁ → Kept surface w₂)
    (h' : Kept surface w₂ → Kept surface w₃) : Kept surface w₁ → Kept surface w₃ :=
  fun kept => h' (h kept)

theorem preserves_bind {p : Exec α} {f : α → Exec β} (hp : Preserves surface p)
    (hf : ∀ a, Preserves surface (f a)) : Preserves surface (p >>= f) :=
  keeps_bind preserves_trans hp hf

theorem preserves_throw (failure : Failure) : Preserves surface (throw failure : Exec α) :=
  keeps_throw (fun _ => id) failure

theorem preserves_pure (a : α) : Preserves surface (Pure.pure a : Exec α) :=
  keeps_pure (fun _ => id) a

theorem preserves_ofExcept (r : Except Failure α) : Preserves surface (ofExcept r : Exec α) :=
  keeps_ofExcept (fun _ => id) r

/-- An effect on anything but the container. -/
theorem preserves_other (label : Effect) (code : FailureCode) (f : World → World)
    (runtime : ∀ w, (f w).runtime = w.runtime) (history : ∀ w, (f w).history = w.history) :
    Preserves surface (perform label code (modify f)) :=
  keeps_effect (fun _ => id) _ _ (keeps_modify f fun w kept => kept.same (runtime w) (history w))

theorem preserves_change (label : Effect) {change : RuntimeObject → RuntimeObject}
    {event : RuntimeObject → RuntimeEvent} (same : ∀ object, surfaceOf (change object) =
      surfaceOf object) (switch : ∀ object created, event object ≠ .created created) :
    Preserves surface (changeRuntime label change event) := by
  intro e w kept
  rcases changeRuntime_cases label change event e w with ⟨object, present, h⟩ | ⟨x, h⟩ | h
  · rw [h]
    exact kept.switched present (same object) (switch _)
  · rw [h]
    exact kept
  · rw [h]
    exact kept

theorem preserves_stop (site : Site) : Preserves surface (stop site) :=
  preserves_change _ (fun _ => rfl) fun _ _ => by simp

theorem preserves_start (site : Site) : Preserves surface (start site) :=
  preserves_change _ (fun _ => rfl) fun _ _ => by simp

theorem preserves_replace (site : Site) {replacement : RuntimeReplacement}
    (container : kind.isContainer) (fits : Fits surface replacement) :
    Preserves surface (replace kind site replacement) :=
  fun e w kept => kept.replaced container fits (replace_ensures kind site replacement e w)

theorem preserves_inspect (site : Site) : Preserves surface (inspect kind site) := by
  refine keeps_effect (fun _ => id) _ _ (keeps_bind preserves_trans
    (keeps_environment fun _ => id) fun attempt => keeps_bind preserves_trans
    (keeps_get fun _ => id) fun w => ?_)
  cases w.runtime with
  | none => exact preserves_throw _
  | some object => exact preserves_pure _

theorem preserves_restoreRuntime (container : kind.isContainer) (artifact : Digest)
    (runtimeRoot : Option Path) {performed : PerformedSteps}
    (fits : ∀ replacement ∈ performed.runtimeBeforeChange, Fits surface replacement) :
    Preserves surface (restoreRuntimeBeforeChange kind artifact runtimeRoot performed) := by
  have engine : kind ≠ .host := by
    intro host
    rw [host] at container
    cases container
  unfold restoreRuntimeBeforeChange
  rw [if_neg engine]
  cases before : performed.runtimeBeforeChange with
  | none => exact preserves_throw _
  | some replacement =>
    refine preserves_bind (preserves_replace _ container (fits replacement before)) fun _ => ?_
    split
    · exact preserves_start _
    · exact preserves_stop _

theorem preserves_restoreConfig (job : UpdateJob) (performed : PerformedSteps) :
    Preserves surface (restoreConfig job performed) := by
  intro e w kept
  have undone := restoreConfig_ensures job performed e w
  rw [Ensures] at undone
  generalize (restoreConfig job performed e w).1 = o at undone
  generalize (restoreConfig job performed e w).2 = w' at undone ⊢
  cases undone with
  | untouched => exact kept
  | kept => exact kept
  | restored => exact kept.same rfl rfl
  | removed => exact kept.same rfl rfl

theorem preserves_rollbackUpdate {job : UpdateJob} (container : job.runtimeKind.isContainer)
    {performed : PerformedSteps}
    (fits : ∀ replacement ∈ performed.runtimeBeforeChange, Fits surface replacement) :
    Preserves surface (rollbackUpdate job performed) := by
  unfold rollbackUpdate
  refine preserves_bind (keeps_attempt (preserves_restoreConfig job performed)) fun _ =>
    preserves_bind (keeps_attempt ?_) fun _ => preserves_ofExcept _
  split
  · exact preserves_restoreRuntime container _ _ fits
  · exact preserves_pure _

theorem preserves_stopWriter (onFailure : String) : Preserves surface (stopWriter onFailure) := by
  refine preserves_bind (keeps_attempt (preserves_stop _)) fun stopped => ?_
  cases stopped with
  | error failure => exact preserves_pure _
  | ok _ => exact preserves_pure _

theorem preserves_concludeUpdate {job : UpdateJob} (container : job.runtimeKind.isContainer)
    {performed : PerformedSteps}
    (fits : ∀ replacement ∈ performed.runtimeBeforeChange, Fits surface replacement)
    (o : Outcome Failure UpdateExecution) : Preserves surface (concludeUpdate job performed o) := by
  have undo := keeps_attempt (preserves_rollbackUpdate container fits)
  have fence : ∀ failure, Preserves surface (stopWriterForRecovery failure) := fun failure =>
    preserves_bind (preserves_stopWriter _) fun _ => preserves_pure _
  unfold concludeUpdate
  split
  · exact fun _ _ => id
  · unfold concludeFailedMigration
    split
    · exact preserves_bind (fence _) fun _ => preserves_throw _
    · refine preserves_bind undo fun cleanup => ?_
      cases cleanup with
      | error failure => exact preserves_throw _
      | ok _ => exact preserves_pure _
  · exact preserves_pure _
  · unfold concludeFailure
    split
    · refine preserves_bind (fence _) fun _ => ?_
      split
      · exact preserves_pure _
      · exact preserves_throw _
    · split
      · exact preserves_bind (preserves_bind (preserves_stopWriter _) fun _ => preserves_pure _)
          fun _ => preserves_throw _
      · refine preserves_bind undo fun cleanup => ?_
        cases cleanup with
        | error failure => exact preserves_throw _
        | ok _ => exact preserves_throw _

end surface

/-! ## Updates and rollbacks keep a surface that is shown -/

section orders

variable {surface : Surface} {w w' : World} {e : Attempt} {run run' : Running}

/-- The container, and the one kept in memory to go back to. -/
structure KeptRun (surface : Surface) (run : Running) : Prop where
  world : Kept surface run.world
  before : ∀ replacement ∈ run.performed.runtimeBeforeChange, Fits surface replacement

theorem KeptRun.same (kept : KeptRun surface run) (part : containerPart run' = containerPart run)
    (history : run'.world.history = run.world.history) : KeptRun surface run' := by
  have runtime : run'.world.runtime = run.world.runtime := congrArg Prod.fst part
  have before : run'.performed.runtimeBeforeChange = run.performed.runtimeBeforeChange :=
    congrArg (fun part => part.2.1) part
  exact ⟨kept.world.same runtime history, by rw [before]; exact kept.before⟩

theorem KeptRun.retained (kept : KeptRun surface run) {before : Option RuntimeReplacement}
    (fits : ∀ replacement ∈ before, Fits surface replacement) (observation : RuntimeObservation) :
    KeptRun surface { run with performed := retainRuntime before observation run.performed } := by
  cases before with
  | none => exact kept
  | some replacement =>
    refine ⟨kept.world, ?_⟩
    rintro _ same
    cases same
    exact fits replacement rfl

theorem Kept.writerStopped {running : Bool} (kept : Kept surface w)
    (stopped : writerStopped running w w') : Kept surface w' := by
  unfold UpdateSteps.writerStopped at stopped
  split at stopped
  · obtain ⟨object, present, rfl⟩ := stopped
    exact kept.switched present rfl (by simp)
  · rw [stopped]
    exact kept

theorem KeptRun.activating {job : UpdateJob} {plan : UpdatePlan} {o : Outcome Failure Unit}
    (kept : KeptRun surface run) (container : job.runtimeKind.isContainer)
    (fits : ∀ replacement ∈ plan.replacement, Fits surface replacement)
    (activating : Activating job plan run o run') : KeptRun surface run' := by
  cases activating with
  | notNeeded => exact kept
  | unstopped => exact kept
  | unreplaced _ _ replacement planned w₁ w₂ stopped replaced =>
    exact ⟨(kept.world.writerStopped stopped).replaced container (fits _ planned) replaced,
      kept.before⟩
  | unstarted _ _ replacement planned w₁ w₂ stopped replaced =>
    exact ⟨(kept.world.writerStopped stopped).replaced container (fits _ planned) replaced,
      kept.before⟩
  | activated replacement planned w₁ w₂ stopped replaced object present =>
    have stands := (kept.world.writerStopped stopped).replaced container (fits _ planned) replaced
    exact ⟨stands.switched present rfl (by simp), kept.before⟩

theorem KeptRun.carried {job : UpdateJob} {plan : UpdatePlan} {o : Outcome Failure UpdateExecution}
    (kept : KeptRun surface run) (container : job.runtimeKind.isContainer)
    (fits : ∀ replacement ∈ plan.replacement, Fits surface replacement)
    (before : ∀ replacement ∈ plan.before, Fits surface replacement)
    (carriedOut : CarriedOut job plan e run o run') : KeptRun surface run' := by
  have begun : KeptRun surface (UpdateSteps.retained plan run) := kept.retained before _
  have staging : ∀ {o run₁}, Staged e.platform job plan (UpdateSteps.retained plan run) o run₁ →
      KeptRun surface run₁ := fun staged =>
    begun.same (staged_containerPart staged) (by rw [staged.world])
  have dispatching : ∀ {run₁ run₂ o}, KeptRun surface run₁ → Dispatched job plan e run₁ o run₂ →
      KeptRun surface run₂ := fun kept dispatched =>
    kept.same (dispatched_containerPart dispatched) (by rw [dispatched.world])
  cases carriedOut with
  | unstaged _ _ _ _ _ staged => exact staging staged
  | undispatched _ _ _ _ _ _ staged dispatched => exact dispatching (staging staged) dispatched
  | migrationFailed _ _ _ staged dispatched => exact dispatching (staging staged) dispatched
  | unactivated _ _ _ _ _ _ _ staged dispatched activating =>
    exact (dispatching (staging staged) dispatched).activating container fits activating
  | uncommitted _ _ _ _ _ staged dispatched activating =>
    exact (dispatching (staging staged) dispatched).activating container fits activating
  | committed _ _ _ _ _ staged dispatched activating =>
    have activated := (dispatching (staging staged) dispatched).activating container fits activating
    exact ⟨activated.world.same rfl rfl, activated.before⟩

/-- One attempt of an update, up to its conclusion. -/
theorem KeptRun.ran {job : UpdateJob} {o : Outcome Failure UpdateExecution}
    (managed : Managed surface) (container : job.runtimeKind.isContainer) (kept : Kept surface w)
    (shown : ShowsPorts e.platform w) (ran : Ran job e ⟨w, freshSteps job⟩ o run') :
    KeptRun surface run' := by
  have begun : KeptRun surface ⟨w, freshSteps job⟩ := ⟨kept, by simp [freshSteps]⟩
  cases ran with
  | refused _ _ w' keeps => exact ⟨kept.same (by rw [keeps.rest]) (by rw [keeps.rest]), begun.before⟩
  | noop w' keeps => exact ⟨kept.same (by rw [keeps.rest]) (by rw [keeps.rest]), begun.before⟩
  | carried plan admitted _ _ carriedOut =>
    obtain ⟨object, live, established⟩ := admission_some admitted
    have present : w.runtime = some object := established.present
    have observed : ∀ artifact, Fits surface (surfaceWith plan.observation artifact) := by
      rw [established.observed]
      exact fits_of_observed managed container (kept.stands object present)
        (shown.imp id fun all => all object present)
    have keeps := (keepArtifact_kept plan.verified.runtimeArtifact w).rest
    have fetched : KeptRun surface
        ⟨keepArtifact plan.verified.runtimeArtifact w, freshSteps job⟩ :=
      ⟨kept.same (by rw [keeps]) (by rw [keeps]), begun.before⟩
    refine fetched.carried container ?_ ?_ carriedOut
    · intro replacement planned
      rcases planReplacement_ok established.replacement with ⟨-, needed, -⟩ | ⟨-, needed, -⟩
      · rw [needed] at planned
        cases planned
      · rw [needed] at planned
        cases planned
        exact observed _
    · intro replacement planned
      rcases planReplacement_ok established.replacement with ⟨-, -, before⟩ | ⟨-, -, before⟩
      · rw [before] at planned
        cases planned
      · rw [before, if_pos container] at planned
        cases planned
        exact observed _

theorem answerUpdate_kept {order : UpdateOrder} (managed : Managed surface)
    (container : ∀ state, w.state = some state → state.runtime.kind.isContainer)
    (kept : Kept surface w) (shown : ShowsPorts e.platform w) :
    Kept surface (answerUpdate order e w).2 := by
  have key : Ensures (answerUpdate order) e (fun _ w' => Kept surface w') w := by
    apply answerUpdate_ensures
    · exact fun _ _ => kept
    intro state job o run loaded precondition built own reached ran
    obtain ⟨current, secrets, -, -, -, rfl⟩ := updateJob_ok built
    have engine : (orderedJob order state current secrets).runtimeKind.isContainer :=
      container state loaded
    have left := KeptRun.ran managed engine kept shown ran
    have concluded := preserves_concludeUpdate engine left.before o e run.world left.world
    rw [Ensures]
    generalize concludeUpdate _ _ _ _ _ = final at concluded ⊢
    obtain ⟨o', w'⟩ := final
    cases o' <;> exact concluded
  exact key

/-- A part of an attempt that keeps a surface, whatever it is run on. -/
def PreservesRun {α : Type} (surface : Surface) (p : Run α) : Prop :=
  Keeps p fun run run' => KeptRun surface run → KeptRun surface run'

theorem preservesRun_bind {α β : Type} {p : Run α} {f : α → Run β}
    (hp : PreservesRun surface p) (hf : ∀ a, PreservesRun surface (f a)) :
    PreservesRun surface (p >>= f) :=
  keeps_bind (fun _ _ _ h h' kept => h' (h kept)) hp hf

theorem preservesRun_onWorld {α : Type} {p : Exec α} (h : Preserves surface p) :
    PreservesRun surface (onWorld p) :=
  keeps_zoom _ _ h fun _ _ keeps kept => ⟨keeps kept.world, kept.before⟩

theorem preservesRun_pairedConfig (job : RollbackJob) (plan : RollbackPlan) :
    PreservesRun surface (restorePairedConfig job plan) := by
  intro e run kept
  have paired := restorePairedConfig_ensures job plan e run
  have part := restorePairedConfig_containerPart job plan e run
  rw [Ensures] at paired part
  refine kept.same part ?_
  rw [paired.world]

theorem preserves_confirmRuntime (kind : RuntimeBackendKind) (digest : Digest) (port : ℕ)
    (issuer mismatch : String) : Preserves surface (confirmRuntime kind digest port issuer mismatch) := by
  intro e w kept
  have confirmed := confirmRuntime_ensures kind digest port issuer mismatch e w
  rw [Ensures] at confirmed
  rw [confirmed.1]
  exact kept

theorem preserves_storeState (label : Effect)
    (operation : DeploymentState → Except Failure DeploymentState) :
    Preserves surface (storeState label operation) := by
  intro e w kept
  have stored := storeState_ensures label operation e w
  rw [Ensures] at stored
  rcases stored.1 with ⟨-, same⟩ | ⟨state, state', -, -, same, -⟩
  · rw [same]
    exact kept
  · rw [same]
    exact kept.same rfl rfl

/-- One attempt of a rollback, up to its conclusion. -/
theorem runRollback_kept {job : RollbackJob} (managed : Managed surface)
    (container : job.runtimeKind.isContainer) (kept : Kept surface w)
    (shown : ShowsPorts e.platform w) :
    Ensures (runRollback job) e (fun _ run' => KeptRun surface run') ⟨w, {}⟩ := by
  have begun : KeptRun surface ⟨w, {}⟩ := ⟨kept, by simp⟩
  unfold runRollback
  simp only [ensures_bind, ensures_onWorld]
  apply (admitRollback_ensures job e w).mono
  rintro (plan | x | _) w ⟨rfl, admitted⟩
  case error => exact begun
  case crashed => exact begun
  obtain ⟨object, admitted⟩ := admitted plan rfl
  have observed : ∀ artifact, Fits surface (surfaceWith plan.observation artifact) := by
    rw [admitted.observed]
    exact fits_of_observed managed container (kept.stands object admitted.present)
      (shown.imp id fun all => all object admitted.present)
  have before : ∀ replacement ∈ plan.before, Fits surface replacement := by
    have planned := admitted.before
    rw [if_pos container] at planned
    cases exactly : exactReplacementFromObservation plan.observation with
    | error x =>
      rw [exactly] at planned
      cases planned
    | ok replacement =>
      rw [exactly] at planned
      rw [← Except.ok.inj planned, exactReplacementFromObservation_ok exactly]
      rintro _ same
      cases same
      exact observed _
  rw [after_ok]
  refine preservesRun_bind (f := fun _ => _) ?_ (fun _ => ?_) e ⟨w, {}⟩ begun
  · exact fun e run kept => kept.retained before _
  refine preservesRun_bind (preservesRun_pairedConfig job plan) fun _ => ?_
  refine keeps_ofExcept_bind (fun _ => id) fun replacement planned => ?_
  have fits : Fits surface replacement := by
    rw [replacementFromObservation_ok planned]
    exact observed _
  refine preservesRun_bind (fun e run kept => ⟨kept.world, kept.before⟩) fun _ => ?_
  refine preservesRun_bind (preservesRun_onWorld (preserves_replace _ container fits)) fun _ => ?_
  refine preservesRun_bind (preservesRun_onWorld (preserves_start _)) fun _ => ?_
  refine preservesRun_bind (preservesRun_onWorld (preserves_confirmRuntime _ _ _ _ _)) fun _ => ?_
  exact preservesRun_bind (preservesRun_onWorld (preserves_storeState _ _)) fun _ _ _ => id

end orders

section orders

variable {surface : Surface} {w w' : World} {e : Attempt}

theorem preserves_executeRollback {job : RollbackJob} (managed : Managed surface)
    (container : job.runtimeKind.isContainer) (kept : Kept surface w)
    (shown : ShowsPorts e.platform w) : Kept surface (executeRollback job e w).2 := by
  have left := runRollback_kept managed container kept shown
  rw [Ensures] at left
  unfold executeRollback
  generalize runRollback job e ⟨w, {}⟩ = ran at left
  obtain ⟨o, run⟩ := ran
  have undo : Preserves surface (restoreCurrentAfterFailedRollback job run.performed) := by
    unfold restoreCurrentAfterFailedRollback
    refine preserves_bind (keeps_attempt ?_) fun _ =>
      preserves_bind (keeps_attempt ?_) fun _ => preserves_ofExcept _
    · split
      · split
        · exact preserves_throw _
        · exact preserves_bind (preserves_other _ _ _ (fun _ => rfl) fun _ => rfl) fun _ =>
            keeps_effect (fun _ => id) _ _ (preserves_pure _)
      · exact preserves_pure _
    · split
      · exact preserves_restoreRuntime container _ _ left.before
      · exact preserves_pure _
  cases o with
  | crashed => exact left.world
  | ok facts => exact left.world
  | error failure =>
    have concluded : Preserves surface (concludeRollback job run.performed (.error failure)) := by
      refine preserves_bind (keeps_attempt undo) fun cleanup => ?_
      cases cleanup with
      | error cleanup => exact preserves_throw _
      | ok _ => exact preserves_throw _
    exact concluded e run.world left.world

theorem answerRollback_kept {order : RollbackOrder} (managed : Managed surface)
    (container : ∀ state, w.state = some state → state.runtime.kind.isContainer)
    (kept : Kept surface w) (shown : ShowsPorts e.platform w) :
    Kept surface (answerRollback order e w).2 := by
  have key : Ensures (answerRollback order) e (fun _ w' => Kept surface w') w := by
    unfold answerRollback LifecycleDispatch.loadState
    simp only [ensures_bind, ensures_perform, ensures_get, after_ok, after_error, after_crashed]
    refine ⟨fun _ => ?_, fun _ _ => kept, fun _ => kept⟩
    cases loaded : w.state with
    | none => exact kept
    | some state =>
      simp only [ensures_pure, after_ok]
      split
      · exact kept
      · simp only [ensures_bind, ensures_require, after_ok, after_error]
        refine ⟨fun _ => ⟨fun _ => ?_, fun _ => kept⟩, fun _ => kept⟩
        split
        · exact kept
        · rename_i current _
          have executed := @preserves_executeRollback surface w e
            (rollbackJob order state current) managed (container state loaded) kept shown
          rw [ensures_bind, Ensures]
          generalize executeRollback _ e w = final at executed
          obtain ⟨o, w'⟩ := final
          cases o <;> exact executed
  exact key

end orders

/-! ## Recovery activation -/

structure RecoveryActivation where
  operationId : OperationId
  recoveryOperationId : OperationId
  expectedRevision : ℕ
  stateEpoch : String
  notBefore : ℤ
  deriving DecidableEq, Repr

/-- The two files that a completed recovery has left in the deployment's scope. -/
structure RecoveryRecord where
  completed : Option RecoveryFacts
  candidate : Option RecoveryCandidateFacts
  deriving DecidableEq, Repr

/-- An effect whose errors are all reported as a failed restore. -/
def asRestore {α : Type} (p : Exec α) : Exec α := do
  match ← Program.attempt p with
  | .ok a => Pure.pure a
  | .error failure => Program.throw ⟨.restoreTestFailed, failure.detail⟩

/-- `same_artifact_identity`. -/
def sameArtifactIdentity : ArtifactReference → ArtifactReference → Bool
  | .oci _ left, .oci _ right => left = right
  | .hostBinary _ left, .hostBinary _ right => left = right
  | _, _ => false

/-- `same_recovery_runtime`. -/
def sameRecoveryRuntime (observed : RuntimeObservation) (artifact : ArtifactReference)
    (stateEpoch : String) : Bool :=
  observed.running && sameArtifactIdentity observed.artifact artifact
    && observed.safeEnvironment.lookup stateEpochVariable = some stateEpoch

/-- `canonical_recovery_artifact`. -/
def canonicalRecoveryArtifact : ArtifactReference → Except Failure Digest
  | .oci _ digest => .ok digest
  | .hostBinary _ sha256 => .ok sha256
  | .unknown => .error ⟨.hostErrOperationInvalid, "recovery artifact is unknown"⟩

/-- The facts of a completed recovery that bind the restored deployment. -/
def recoveredCandidate (activation : RecoveryActivation) (record : RecoveryRecord)
    (state : DeploymentState) : Except Failure RecoveryCandidateFacts :=
  if state.activeHostOperation ≠ some activation.recoveryOperationId then
    .error ⟨.hostErrOperationInvalid,
      "recovery activation is not bound to the restored deployment"⟩
  else match record.completed with
    | none => .error ⟨.restoreTestFailed, "recovery completion is missing"⟩
    | some facts =>
      if facts.operationId ≠ activation.recoveryOperationId
          ∨ state.currentRelease ≠ some facts.release then
        .error ⟨.restoreTestFailed,
          "recovery activation facts do not bind the restored runtime"⟩
      else match record.candidate with
        | none => .error ⟨.restoreTestFailed, "recovery candidate release facts are missing"⟩
        | some candidate =>
          if candidate.operationId ≠ activation.recoveryOperationId then
            .error ⟨.restoreTestFailed,
              "recovery candidate release facts do not bind this recovery"⟩
          else .ok candidate

/-- The container of the restored deployment, on the verified target Release. -/
def replaceRecovered (kind : RuntimeBackendKind) (observed : RuntimeObservation)
    (artifact : ArtifactReference) (stateEpoch : String) : Exec Unit := do
  let replacement ← Program.ofExcept (replacementFromObservation observed artifact)
  asRestore (replace kind .change { replacement with
    environment := insertVariable stateEpochVariable stateEpoch replacement.environment })
  asRestore (start .change)
  let activated ← asRestore (inspect kind .check)
  Program.require (sameRecoveryRuntime activated artifact stateEpoch) ⟨.restoreTestFailed,
    "recovery activation did not start the verified target Release"⟩

/-- The readiness probe of the activated runtime, and the commit. -/
def commitRecovered (activation : RecoveryActivation) (candidate : RecoveryCandidateFacts)
    (state : DeploymentState) : Exec Unit := do
  asRestore (probeLocalHealth state.runtime.loopbackPort state.issuer)
  let artifact ← Program.ofExcept (canonicalRecoveryArtifact candidate.artifact)
  let _ ← storeState .commitState fun live => applyUpdateHealthyFromLive live
    state.config.revision ⟨none, artifact, some candidate.release, none, activation.operationId⟩ true

/-- `activate_recovered_runtime`. Only a stopped container is replaced. -/
def activateRecoveredRuntime (activation : RecoveryActivation) (record : RecoveryRecord)
    (state : DeploymentState) : Exec Unit := do
  let attempt ← Program.environment
  Program.require (activation.notBefore < attempt.now) ⟨.restoreTestFailed,
    "target clock has not passed the recovery invalidation deadline"⟩
  let candidate ← Program.ofExcept (recoveredCandidate activation record state)
  let observed ← asRestore (inspect state.runtime.kind .change)
  if observed.running then
    Program.require (sameRecoveryRuntime observed candidate.artifact activation.stateEpoch)
      ⟨.restoreTestFailed,
        "recovery activation found a running runtime with a different artifact or state epoch"⟩
  else
    replaceRecovered state.runtime.kind observed candidate.artifact activation.stateEpoch
  commitRecovered activation candidate state

/-- The `BackupRecoveryActivate` branch of `dispatch_validated_host_operation`. -/
def answerRecoveryActivate (activation : RecoveryActivation) (record : RecoveryRecord) :
    Exec Unit := do
  let state ← loadState
  Program.require (state.config.revision = activation.expectedRevision) ⟨.configRevisionMismatch,
    "recovery activation no longer matches the restored deployment revision"⟩
  activateRecoveredRuntime activation record state

section activation

variable {surface : Surface} {kind : RuntimeBackendKind} {w w' : World} {e : Attempt}

theorem preserves_asRestore {α : Type} {p : Exec α} (h : Preserves surface p) :
    Preserves surface (asRestore p) := by
  refine preserves_bind (keeps_attempt h) fun answer => ?_
  cases answer with
  | ok a => exact preserves_pure a
  | error failure => exact preserves_throw _

/-- An inspection shows the container that stands. -/
theorem asRestore_inspect (kind : RuntimeBackendKind) (site : Site) (e : Attempt) (w : World) :
    Ensures (asRestore (inspect kind site)) e (fun o w' => w' = w ∧ ∀ observed, o = .ok observed →
      ∃ object, w.runtime = some object ∧ observed = observation e.platform kind object) w := by
  unfold asRestore inspect
  simp only [ensures_bind, ensures_attempt, ensures_perform, ensures_environment, ensures_get,
    after_ok]
  refine ⟨fun _ => ?_, by simp, by simp⟩
  cases present : w.runtime with
  | none => simp
  | some object => simp

/-- The state epoch is not part of the surface. -/
theorem Fits.epoch {replacement : RuntimeReplacement} (fits : Fits surface replacement)
    (stateEpoch : String) : Fits surface { replacement with
      environment := insertVariable stateEpochVariable stateEpoch replacement.environment } := by
  intro reference digest bound
  rw [← fits reference digest bound]
  simp [surfaceOf, createdObject, insertVariable, List.filter_filter]

theorem preserves_replaceRecovered (container : kind.isContainer) {observed : RuntimeObservation}
    {artifact : ArtifactReference} (fits : Fits surface (surfaceWith observed artifact))
    (stateEpoch : String) :
    Preserves surface (replaceRecovered kind observed artifact stateEpoch) := by
  refine keeps_ofExcept_bind (fun _ => id) fun replacement planned => ?_
  rw [replacementFromObservation_ok planned]
  refine preserves_bind (preserves_asRestore (preserves_replace _ container (fits.epoch _)))
    fun _ => preserves_bind (preserves_asRestore (preserves_start _)) fun _ =>
    preserves_bind (preserves_asRestore (preserves_inspect _)) fun _ => keeps_require (fun _ => id) _ _

theorem preserves_probeLocalHealth (port : ℕ) (issuer : String) :
    Preserves surface (probeLocalHealth port issuer) := by
  refine keeps_effect (fun _ => id) _ _ (keeps_bind preserves_trans (keeps_environment fun _ => id)
    fun _ => keeps_bind preserves_trans (keeps_get fun _ => id) fun w => ?_)
  split
  · exact preserves_throw _
  · exact preserves_throw _
  · exact keeps_require (fun _ => id) _ _

theorem preserves_commitRecovered (activation : RecoveryActivation)
    (candidate : RecoveryCandidateFacts) (state : DeploymentState) :
    Preserves surface (commitRecovered activation candidate state) :=
  preserves_bind (preserves_asRestore (preserves_probeLocalHealth _ _)) fun _ =>
    preserves_bind (preserves_ofExcept _) fun _ =>
    preserves_bind (preserves_storeState _ _) fun _ => preserves_pure _

theorem answerRecoveryActivate_kept {activation : RecoveryActivation} {record : RecoveryRecord}
    (managed : Managed surface)
    (container : ∀ state, w.state = some state → state.runtime.kind.isContainer)
    (kept : Kept surface w) (shown : ShowsPorts e.platform w) :
    Kept surface (answerRecoveryActivate activation record e w).2 := by
  have key : Ensures (answerRecoveryActivate activation record) e (fun _ w' => Kept surface w') w := by
    unfold answerRecoveryActivate LifecycleDispatch.loadState activateRecoveredRuntime
    simp only [ensures_bind, ensures_perform, ensures_get, after_ok, after_error, after_crashed]
    refine ⟨fun _ => ?_, fun _ _ => kept, fun _ => kept⟩
    cases loaded : w.state with
    | none => exact kept
    | some state =>
      simp only [ensures_pure, after_ok, ensures_bind, ensures_require, after_error,
        ensures_environment, ensures_ofExcept]
      refine ⟨fun _ => ⟨fun _ => ⟨fun candidate _ => ?_, fun _ _ => kept⟩, fun _ => kept⟩,
        fun _ => kept⟩
      apply (asRestore_inspect _ _ e w).mono
      rintro (observed | x | _) w₁ ⟨rfl, shows⟩
      case error => exact kept
      case crashed => exact kept
      obtain ⟨object, present, rfl⟩ := shows observed rfl
      have fits := fits_of_observed managed (container state loaded) (kept.stands object present)
        (shown.imp id fun all => all object present) candidate.artifact
      have commit : Preserves surface (commitRecovered activation candidate state) :=
        preserves_commitRecovered activation candidate state
      rw [after_ok]
      split
      · exact preserves_bind (keeps_require (fun _ => id) _ _) (fun _ => commit) e w₁ kept
      · exact preserves_bind (preserves_replaceRecovered (container state loaded) fits _)
          (fun _ => commit) e w₁ kept
  exact key

end activation

/-! ## Runs -/

/-- An order that may create containers. It may fail or be cut off anywhere. -/
inductive Ordered (platform : Platform) (w : World) : World → Prop
  | update (order : UpdateOrder) (e : Attempt) (here : e.platform = platform) :
      Ordered platform w (answerUpdate order e w).2
  | rollback (order : RollbackOrder) (e : Attempt) (here : e.platform = platform) :
      Ordered platform w (answerRollback order e w).2
  | activate (activation : RecoveryActivation) (record : RecoveryRecord) (e : Attempt)
      (here : e.platform = platform) :
      Ordered platform w (answerRecoveryActivate activation record e w).2

/-- What happens without such an order: the container starts, stops or exits, and anything
else changes. -/
inductive Outside (w : World) : World → Prop
  | started (object : RuntimeObject) (present : w.runtime = some object) :
      Outside w (w.after (some object.launched) (.started object.launched))
  | stopped (object : RuntimeObject) (present : w.runtime = some object) :
      Outside w (w.after (some object.halted) .stopped)
  | elsewhere (w' : World) (runtime : w'.runtime = w.runtime) (history : w'.history = w.history) :
      Outside w w'

/-- A document of a container deployment. -/
def ContainerState (w : World) : Prop :=
  ∀ state, w.state = some state → state.runtime.kind.isContainer

/-- Steps in the life of a container deployment, its orders under a condition. -/
def Run (platform : Platform) (condition : World → Prop) : World → World → Prop :=
  Relation.ReflTransGen fun w w' =>
    (Ordered platform w w' ∧ ContainerState w ∧ condition w) ∨ Outside w w'

/-- The container is the one that `start_container_runtime` has just created. -/
structure JustInstalled (job : ContainerInstall) (installed : RuntimeReplacement) (w : World) :
    Prop where
  planned : installReplacement job = .ok installed
  stands : w.runtime = some (createdObject installed)
  first : w.history = [.created (createdObject installed)]

section runs

variable {platform : Platform} {surface : Surface} {w w' : World}

theorem JustInstalled.kept {job : ContainerInstall} {installed : RuntimeReplacement}
    (h : JustInstalled job installed w) : Kept (surfaceOf (createdObject installed)) w where
  stands object present := by
    rw [h.stands] at present
    cases present
    rfl
  created object member := by
    rw [h.first] at member
    cases List.mem_singleton.mp member
    rfl

theorem Kept.ordered (kept : Kept surface w) (managed : Managed surface)
    (container : ContainerState w) (shown : ShowsPorts platform w)
    (ordered : Ordered platform w w') : Kept surface w' := by
  cases ordered with
  | update order e here =>
    subst here
    exact answerUpdate_kept managed container kept shown
  | rollback order e here =>
    subst here
    exact answerRollback_kept managed container kept shown
  | activate activation record e here =>
    subst here
    exact answerRecoveryActivate_kept managed container kept shown

theorem Kept.outside (kept : Kept surface w) (outside : Outside w w') : Kept surface w' := by
  cases outside with
  | started object present => exact kept.switched present rfl (by simp)
  | stopped object present => exact kept.switched present rfl (by simp)
  | elsewhere _ runtime history => exact kept.same runtime history

/-- Every replacement has the installed surface, as long as every container that an order
finds shows its published ports. -/
theorem replacements_keep_surface {job : ContainerInstall} {installed : RuntimeReplacement}
    (installation : JustInstalled job installed w) (run : Run platform (ShowsPorts platform) w w') :
    ∀ object, .created object ∈ w'.history →
      surfaceOf object = surfaceOf (createdObject installed) := by
  have managed := installReplacement_managed installation.planned
  suffices Kept (surfaceOf (createdObject installed)) w' from this.created
  induction run with
  | refl => exact installation.kept
  | tail _ step ih =>
    rcases step with ⟨ordered, container, shown⟩ | outside
    · exact ih.ordered managed container shown ordered
    · exact ih.outside outside

end runs

section inputs

open UpdateReplay (twoReleases undisturbed deployed deployedState updateOrder)

/-- The sample platform under Docker, which reports no ports of a stopped container. -/
def silentPlatform : Platform := { twoReleases with reportsStoppedPorts := false }

def sampleInstall : ContainerInstall where
  deploymentId := "main"
  repository := "ghcr.io/nazozero/nazoauth"
  digest := 10
  configReference := ["etc", "nazoauth", "config.yaml"]
  dataRoot := ["var", "data"]
  scopeDir := ["var", "scope"]
  loopbackPort := 8080
  secrets := [("signing-key-encryption-key", ["var", "secrets", "signing-key-encryption-key"])]
  tlsMount := none
  publicPorts := []

def sampleReplacement : RuntimeReplacement where
  artifact := .oci "ghcr.io/nazozero/nazoauth" 10
  mounts := installedMounts sampleInstall
  environment := ("SIGNING_KEY_ENCRYPTION_KEY_FILE", "/run/secrets/signing-key-encryption-key") ::
    baseEnvironment "main"
  networks := []
  ports := installedPorts sampleInstall
  labels := [(ownershipLabel, "main")]

def sampleContainer : RuntimeObject := createdObject sampleReplacement

def justInstalled : World :=
  { deployed .docker with runtime := some sampleContainer, history := [.created sampleContainer] }

theorem justInstalled_installed : JustInstalled sampleInstall sampleReplacement justInstalled where
  planned := by decide
  stands := rfl
  first := rfl

def runningWorld : World :=
  justInstalled.after (some sampleContainer.launched) (.started sampleContainer.launched)

/-- The container that an update of the running one creates. -/
def updatedContainer : RuntimeObject :=
  createdObject (surfaceWith (observation silentPlatform .docker sampleContainer.launched)
    (.oci "ghcr.io/nazozero/nazoauth" 11))

/-- An update of the running sample deployment keeps its surface. -/
theorem running_update_keeps_surface :
    .created updatedContainer ∈ (answerUpdate (updateOrder none) (undisturbed silentPlatform)
        runningWorld).2.history ∧
      surfaceOf updatedContainer = surfaceOf (createdObject sampleReplacement) := by
  have created : .created updatedContainer ∈ (answerUpdate (updateOrder none)
      (undisturbed silentPlatform) runningWorld).2.history :=
    List.mem_cons_of_mem (RuntimeEvent.started updatedContainer.launched) List.mem_cons_self
  have run : Run silentPlatform (ShowsPorts silentPlatform) justInstalled
      (answerUpdate (updateOrder none) (undisturbed silentPlatform) runningWorld).2 := by
    have started : Run silentPlatform (ShowsPorts silentPlatform) justInstalled runningWorld :=
      .single (.inr (.started sampleContainer rfl))
    have here : ContainerState runningWorld := by
      rintro _ ⟨⟩
      rfl
    have shown : ShowsPorts silentPlatform runningWorld := by
      right
      rintro _ ⟨⟩
      rfl
    exact started.tail (.inl ⟨.update (updateOrder none) (undisturbed silentPlatform) rfl, here, shown⟩)
  exact ⟨created, replacements_keep_surface justInstalled_installed run _ created⟩

def stoppedWorld : World :=
  runningWorld.after (some sampleContainer.launched.halted) .stopped

def lostContainer : RuntimeObject :=
  createdObject (surfaceWith (observation silentPlatform .docker sampleContainer)
    (.oci "ghcr.io/nazozero/nazoauth" 11))

/-- An update of the stopped one leaves a container that publishes nothing. -/
theorem stopped_update_loses_ports :
    JustInstalled sampleInstall sampleReplacement justInstalled ∧
      ∃ w, Run silentPlatform (fun _ => True) justInstalled w ∧
        .created lostContainer ∈ w.history ∧ lostContainer.ports = [] ∧
        surfaceOf lostContainer ≠ surfaceOf (createdObject sampleReplacement) := by
  refine ⟨justInstalled_installed, (answerUpdate (updateOrder none) (undisturbed silentPlatform)
    stoppedWorld).2, ?_, ?_, rfl, by decide⟩
  · have stopped : Run silentPlatform (fun _ => True) justInstalled stoppedWorld :=
      Relation.ReflTransGen.tail (.single (.inr (.started sampleContainer rfl)))
        (.inr (.stopped sampleContainer.launched rfl))
    exact stopped.tail (.inl ⟨.update (updateOrder none) (undisturbed silentPlatform) rfl,
      by rintro _ ⟨⟩; rfl, trivial⟩)
  · exact List.mem_cons_of_mem (RuntimeEvent.started lostContainer.launched) List.mem_cons_self

end inputs

end NazoAuthCtl.ContainerSurface
