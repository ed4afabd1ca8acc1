import NazoAuthCtl.RecoveryDispatch

/-!
# A restore that is given up

Until the marker of the switch is written, a restore works beside the formal paths.
An attempt that fails there starts the runtime again, if it has stopped it itself. It
does not know of a runtime that an earlier attempt of the operation has stopped.
-/

set_option autoImplicit false
set_option linter.all false

namespace NazoAuthCtl.RecoveryAbort

open FaultProgram TargetState TargetWorld RecoveryWorld BackupRecover StoreMutations
open RecoveryDispatch
open Program (get modify environment require onlyIf ofExcept attempt zoom Keeps)

/-! ## Beside the formal paths -/

/-- Without the marker, the formal paths are the earlier ones and nothing is complete that
was not. -/
structure Unswitched (r r' : Restore) : Prop where
  marker : r.pathsSwitching = true → r'.pathsSwitching = true
  data : r'.pathsSwitching = false → r'.data.formal = r.data.formal
  secrets : r'.pathsSwitching = false → r'.secrets.formal = r.secrets.formal
  config : r'.pathsSwitching = false → r'.config.formal = r.config.formal
  completed : r'.pathsSwitching = false → r'.completed = r.completed

theorem Unswitched.refl (r : Restore) : Unswitched r r :=
  ⟨id, fun _ => rfl, fun _ => rfl, fun _ => rfl, fun _ => rfl⟩

theorem Unswitched.unmarked {r r' : Restore} (h : Unswitched r r')
    (unmarked : r'.pathsSwitching = false) : r.pathsSwitching = false := by
  by_contra marked
  rw [h.marker (Bool.not_eq_false _ ▸ marked)] at unmarked
  cases unmarked

theorem Unswitched.trans (r₀ r₁ r₂ : Restore) (h : Unswitched r₀ r₁) (h' : Unswitched r₁ r₂) :
    Unswitched r₀ r₂ where
  marker := h'.marker ∘ h.marker
  data unmarked := (h'.data unmarked).trans (h.data (h'.unmarked unmarked))
  secrets unmarked := (h'.secrets unmarked).trans (h.secrets (h'.unmarked unmarked))
  config unmarked := (h'.config unmarked).trans (h.config (h'.unmarked unmarked))
  completed unmarked := (h'.completed unmarked).trans (h.completed (h'.unmarked unmarked))

/-- A marked state is never taken for an unswitched one. -/
theorem Unswitched.of_marked {r r' : Restore} (marked : r'.pathsSwitching = true) :
    Unswitched r r' := by
  have never : ∀ {p : Prop}, r'.pathsSwitching = false → p := by
    intro p unmarked
    rw [marked] at unmarked
    cases unmarked
  exact ⟨fun _ => marked, never, never, never, never⟩

/-- What a restore does to a stopped runtime: nothing. -/
structure Beside (r r' : Restore) : Prop extends Unswitched r r' where
  runtime : r'.runtime = r.runtime

theorem Beside.refl (r : Restore) : Beside r r := ⟨.refl r, rfl⟩

theorem Beside.trans (r₀ r₁ r₂ : Restore) (h : Beside r₀ r₁) (h' : Beside r₁ r₂) : Beside r₀ r₂ :=
  ⟨.trans _ _ _ h.toUnswitched h'.toUnswitched, h'.runtime.trans h.runtime⟩

/-- The part of it that also holds while the paths are switched. -/
def Marks (r r' : Restore) : Prop :=
  r'.runtime = r.runtime ∧ (r.pathsSwitching = true → r'.pathsSwitching = true)

theorem Marks.refl (r : Restore) : Marks r r := ⟨rfl, id⟩

theorem Marks.trans (r₀ r₁ r₂ : Restore) (h : Marks r₀ r₁) (h' : Marks r₁ r₂) : Marks r₀ r₂ :=
  ⟨h'.1.trans h.1, h'.2 ∘ h.2⟩

section programs

variable {α β : Type}

theorem beside_pure (a : α) : Keeps (pure a : Restoring α) Beside := Program.keeps_pure .refl a

theorem beside_throw (failure : Failure) : Keeps (Program.throw failure : Restoring α) Beside :=
  Program.keeps_throw .refl failure

theorem beside_get : Keeps (get : Restoring Restore) Beside := Program.keeps_get .refl

theorem beside_environment : Keeps (environment : Restoring RecoveryAttempt) Beside :=
  Program.keeps_environment .refl

theorem beside_require (c : Prop) [Decidable c] (failure : Failure) :
    Keeps (require c failure : Restoring Unit) Beside :=
  Program.keeps_require .refl c failure

theorem beside_ofExcept (r : Except Failure α) : Keeps (ofExcept r : Restoring α) Beside :=
  Program.keeps_ofExcept .refl r

theorem beside_bind {p : Restoring α} {f : α → Restoring β} (first : Keeps p Beside)
    (then_ : ∀ a, Keeps (f a) Beside) : Keeps (p >>= f) Beside :=
  Program.keeps_bind .trans first then_

theorem beside_onlyIf (c : Prop) [Decidable c] {p : Restoring Unit} (h : Keeps p Beside) :
    Keeps (onlyIf c p) Beside :=
  Program.keeps_onlyIf .refl c h

theorem beside_step (label : RecoveryEffect) {body : Restoring α} (h : Keeps body Beside) :
    Keeps (step label body) Beside :=
  Program.keeps_effect .refl _ _ h

/-- What is read of the state decides how to go on. -/
theorem beside_read {f : Restore → Restoring α} (h : ∀ r, Keeps (f r) Beside) :
    Keeps (get >>= f) Beside :=
  beside_bind beside_get h

/-- Changes of what is bound to the operation. -/
theorem beside_modify {f : Restore → Restore} (h : ∀ r, Beside r (f r)) :
    Keeps (modify f : Restoring Unit) Beside :=
  Program.keeps_modify f h

/-- Once the marker is written, only the runtime counts. -/
theorem beside_bind_marked {p : Restoring α} {f : α → Restoring β} (first : Keeps p Beside)
    (marked : ∀ e r a r', p e r = (.ok a, r') → r'.pathsSwitching = true)
    (then_ : ∀ a, Keeps (f a) Marks) : Keeps (p >>= f) Beside := by
  intro e r
  rcases run : p e r with ⟨a | failure | _, r₁⟩
  · rw [Program.run_bind_ok run]
    have marks := then_ a e r₁
    have later := marks.2 (marked e r a r₁ run)
    exact ⟨.of_marked later, marks.1.trans (first.run run).runtime⟩
  · rw [Program.run_bind_error run]
    exact first.run run
  · rw [Program.run_bind_crashed run]
    exact first.run run

end programs

/-! ## The parts of a restore -/

section parts

theorem readRuntime_beside : Keeps readRuntime Beside := by
  apply beside_step
  apply beside_read
  intro r
  cases r.runtime with
  | none => exact beside_throw _
  | some object => exact beside_pure object

theorem admitRecovery_beside (state : DeploymentState) (expectedManifest : Digest) :
    Keeps (admitRecovery state expectedManifest) Beside := by
  apply beside_bind
  · apply beside_step
    apply beside_read
    intro r
    cases r.snapshot with
    | none => exact beside_throw _
    | some snapshot => exact beside_pure snapshot
  · exact fun snapshot => beside_bind (beside_require _ _) fun _ =>
      beside_bind readRuntime_beside fun live =>
      beside_bind (beside_require _ _) fun _ =>
      beside_bind (beside_step _ (beside_pure ())) fun _ => beside_pure _

theorem readSentinel_beside (site : SentinelSite) (name : DatabaseName) :
    Keeps (readSentinel site name) Beside := by
  apply beside_step
  apply beside_bind beside_environment
  intro attempt
  apply beside_read
  intro r
  cases databaseSentinel attempt.platform (r.databases name) with
  | none => exact beside_throw _
  | some digest => exact beside_pure digest

theorem completedRecovery_beside (manifest : SnapshotManifest) (operation : OperationId)
    (facts : RecoveryFacts) : Keeps (completedRecovery manifest operation facts) Beside := by
  apply beside_bind beside_environment
  intro attempt
  apply beside_bind (beside_require _ _)
  intro _
  apply beside_bind
  · apply beside_step
    apply beside_read
    intro r
    cases r.secrets.formal with
    | none => exact beside_throw _
    | some secrets => exact beside_ofExcept _
  · exact fun _ => beside_bind (beside_require _ _) fun _ =>
      beside_bind (readSentinel_beside _ _) fun _ =>
      beside_bind (beside_require _ _) fun _ => beside_pure facts

theorem unpackArchive_beside (snapshot : Snapshot) : Keeps (unpackArchive snapshot) Beside := by
  have discarded : ∀ unpacking : Bool, ∀ r : Restore, Beside r { r with unpacking } :=
    fun _ r => ⟨⟨id, fun _ => rfl, fun _ => rfl, fun _ => rfl, fun _ => rfl⟩, rfl⟩
  have published : ∀ r : Restore,
      Beside r { r with extracted := some snapshot.archive, unpacking := false } :=
    fun r => ⟨⟨id, fun _ => rfl, fun _ => rfl, fun _ => rfl, fun _ => rfl⟩, rfl⟩
  exact beside_bind beside_environment fun attempt =>
    beside_read fun r =>
    beside_bind (beside_onlyIf _ (beside_step _ (beside_modify (discarded false)))) fun _ =>
    beside_bind (beside_modify (discarded true)) fun _ =>
    beside_bind (beside_step _ (beside_pure ())) fun _ =>
    beside_bind (beside_require _ _) fun _ =>
    beside_bind (beside_step _ (beside_modify published)) fun _ => beside_pure _

theorem prepareRecoveryArchive_beside (snapshot : Snapshot) :
    Keeps (prepareRecoveryArchive snapshot) Beside := by
  apply beside_bind beside_environment
  intro attempt
  apply beside_read
  intro r
  cases r.extracted with
  | none => exact unpackArchive_beside snapshot
  | some found =>
    simp only
    by_cases complete : found.matches attempt.platform.sha256 snapshot.manifest.archiveFiles = true
    · rw [if_pos complete]
      exact beside_pure found
    · rw [if_neg complete]
      refine beside_bind (beside_step _ (beside_modify fun r => ?_)) fun _ =>
        unpackArchive_beside snapshot
      exact ⟨⟨id, fun _ => rfl, fun _ => rfl, fun _ => rfl, fun _ => rfl⟩, rfl⟩

theorem bindDatabasePlan_beside (plan : DatabasePlan) (preexisting : Bool) :
    Keeps (bindDatabasePlan plan preexisting) Beside := by
  apply beside_read
  intro r
  cases r.databasePlan with
  | some found => exact beside_step _ (beside_require _ _)
  | none =>
    refine beside_bind (beside_require _ _) fun _ => beside_step _ (beside_modify fun r => ?_)
    exact ⟨⟨id, fun _ => rfl, fun _ => rfl, fun _ => rfl, fun _ => rfl⟩, rfl⟩

theorem setDatabase_beside (name : DatabaseName) (database : Option Database) (r : Restore) :
    Beside r (setDatabase name database r) :=
  ⟨⟨id, fun _ => rfl, fun _ => rfl, fun _ => rfl, fun _ => rfl⟩, rfl⟩

theorem dropDatabase_beside (label : RecoveryEffect) (name : DatabaseName) :
    Keeps (dropDatabase label name) Beside :=
  beside_step label (beside_modify (setDatabase_beside name none))

theorem createDatabase_beside (name : DatabaseName) : Keeps (createDatabase name) Beside :=
  beside_step _ (beside_read fun _ => beside_bind (beside_require _ _) fun _ =>
    beside_modify (setDatabase_beside name (some [])))

theorem loadDump_beside (name : DatabaseName) (dump : Database) :
    Keeps (loadDump name dump) Beside := by
  intro e r
  unfold loadDump
  cases e.faults .loadDump with
  | none => exact setDatabase_beside name _ r
  | fail detail => exact setDatabase_beside name _ r
  | crash => exact setDatabase_beside name _ r

theorem restoreDump_beside (name : DatabaseName) (dump : Database) :
    Keeps (restoreDump name dump) Beside := by
  apply beside_bind (Program.keeps_attempt (loadDump_beside name dump))
  intro loaded
  cases loaded with
  | ok _ => exact beside_pure ()
  | error failure =>
    exact beside_bind (Program.keeps_attempt (dropDatabase_beside _ name)) fun _ =>
      beside_throw failure

theorem alreadyRestored_beside (manifest : SnapshotManifest) (name : DatabaseName)
    (preexisting : Bool) : Keeps (alreadyRestored manifest name preexisting) Beside := by
  unfold alreadyRestored
  by_cases found : preexisting = true
  · rw [if_pos found]
    apply beside_bind (Program.keeps_attempt (readSentinel_beside _ name))
    intro digest
    cases digest with
    | ok digest => exact beside_pure _
    | error failure => exact beside_pure false
  · rw [if_neg found]
    exact beside_pure false

theorem reloadDatabase_beside (snapshot : Snapshot) (name : DatabaseName) (preexisting : Bool) :
    Keeps (reloadDatabase snapshot name preexisting) Beside :=
  beside_bind (beside_onlyIf _ (dropDatabase_beside _ name)) fun _ =>
    beside_bind (createDatabase_beside name) fun _ =>
    beside_bind (restoreDump_beside name snapshot.dump) fun _ =>
    beside_bind (readSentinel_beside _ name) fun _ => beside_require _ _

theorem restoreDatabase_beside (snapshot : Snapshot) (operation : OperationId)
    (archive : Extracted) : Keeps (restoreDatabase snapshot operation archive) Beside :=
  beside_bind beside_environment fun _ =>
    beside_bind (beside_step _ (beside_ofExcept _)) fun connection =>
    beside_bind (beside_step _ (beside_read fun _ => beside_pure _)) fun preexisting =>
    beside_bind (bindDatabasePlan_beside _ preexisting) fun _ =>
    beside_bind (alreadyRestored_beside _ _ preexisting) fun _ =>
    beside_bind (beside_onlyIf _ (reloadDatabase_beside snapshot _ preexisting)) fun _ =>
    beside_pure connection

end parts


/-! ## Staging, and the switch -/

section switch

variable {α : Type}

/-- Staging works on the siblings of a formal path. -/
def SameFormal (path path' : Switch α) : Prop := path'.formal = path.formal

theorem SameFormal.refl (path : Switch α) : SameFormal path path := rfl

theorem SameFormal.trans (path₀ path₁ path₂ : Switch α) (h : SameFormal path₀ path₁)
    (h' : SameFormal path₁ path₂) : SameFormal path₀ path₂ := Eq.trans h' h

theorem staged_modify (label : RecoveryEffect) {f : Switch α → Switch α}
    (h : ∀ path, SameFormal path (f path)) : Keeps (step label (modify f)) SameFormal :=
  Program.keeps_effect .refl _ _ (Program.keeps_modify f h)

theorem staged_bind {β γ : Type} {p : Recovering (Switch α) β}
    {f : β → Recovering (Switch α) γ} (first : Keeps p SameFormal)
    (then_ : ∀ b, Keeps (f b) SameFormal) : Keeps (p >>= f) SameFormal :=
  Program.keeps_bind .trans first then_

theorem staged_onlyIf (c : Prop) [Decidable c] {p : Recovering (Switch α) Unit}
    (h : Keeps p SameFormal) : Keeps (onlyIf c p) SameFormal :=
  Program.keeps_onlyIf .refl c h

theorem staged_read {β : Type} {f : Switch α → Recovering (Switch α) β}
    (h : ∀ path, Keeps (f path) SameFormal) : Keeps (get >>= f) SameFormal :=
  staged_bind (Program.keeps_get .refl) h

theorem copyTreeAtomic_staged (label : RestoredPath) (source : α) :
    Keeps (copyTreeAtomic label source) SameFormal := by
  apply staged_read
  intro path
  apply staged_bind (staged_onlyIf _ (staged_modify _ fun _ => by rfl))
  intro _
  apply staged_bind (Program.keeps_modify _ fun _ => by rfl)
  intro _
  apply staged_bind (Program.keeps_effect .refl _ _ (Program.keeps_pure .refl ()))
  intro _
  exact staged_modify _ fun _ => by rfl

theorem stageTree_staged (label : RestoredPath) (source : α) :
    Keeps (stageTree label source) SameFormal :=
  staged_read fun _ => staged_onlyIf _ (copyTreeAtomic_staged label source)

theorem stageFile_staged (label : RestoredPath) (content : α) :
    Keeps (stageFile label content) SameFormal :=
  staged_read fun _ => staged_onlyIf _ (staged_modify _ fun _ => by rfl)

theorem writeDatabaseUrls_staged (lifecycle runtime : Bytes) :
    Keeps (writeDatabaseUrls lifecycle runtime) SameFormal := by
  have written : ∀ (name : String) (content : Bytes),
      Keeps (writeStagedSecret name content) SameFormal :=
    fun _ _ => staged_modify _ fun _ => by rfl
  exact staged_read fun _ => staged_onlyIf _ (staged_bind (written lifecycleUrl lifecycle) fun _ =>
    written runtimeUrl runtime)

end switch

section paths

theorem onData_beside {p : Recovering (Switch Tree) Unit} (h : Keeps p SameFormal) :
    Keeps (onData p) Beside :=
  Program.keeps_zoom _ _ h fun _ _ same =>
    ⟨⟨id, fun _ => same, fun _ => rfl, fun _ => rfl, fun _ => rfl⟩, rfl⟩

theorem onSecrets_beside {p : Recovering (Switch Tree) Unit} (h : Keeps p SameFormal) :
    Keeps (onSecrets p) Beside :=
  Program.keeps_zoom _ _ h fun _ _ same =>
    ⟨⟨id, fun _ => rfl, fun _ => same, fun _ => rfl, fun _ => rfl⟩, rfl⟩

theorem onConfig_beside {p : Recovering (Switch Bytes) Unit} (h : Keeps p SameFormal) :
    Keeps (onConfig p) Beside :=
  Program.keeps_zoom _ _ h fun _ _ same =>
    ⟨⟨id, fun _ => rfl, fun _ => rfl, fun _ => same, fun _ => rfl⟩, rfl⟩

theorem stagePaths_beside (archive : Extracted) (lifecycle runtime config : Bytes) :
    Keeps (stagePaths archive lifecycle runtime config) Beside :=
  beside_bind (onData_beside (stageTree_staged .data archive.data)) fun _ =>
    beside_bind (onSecrets_beside (stageTree_staged .secrets archive.secrets)) fun _ =>
    beside_bind (onSecrets_beside (writeDatabaseUrls_staged lifecycle runtime)) fun _ =>
    beside_bind (onConfig_beside (stageFile_staged .config config)) fun _ =>
    beside_step _ (beside_pure ())

def markSwitching : Restoring Unit :=
  step .markSwitching (modify fun r => { r with pathsSwitching := true })

theorem markSwitching_beside : Keeps markSwitching Beside :=
  beside_step _ (beside_modify fun _ => ⟨.of_marked rfl, rfl⟩)

theorem markSwitching_marks (e : RecoveryAttempt) (r : Restore) (a : Unit) (r' : Restore)
    (run : markSwitching e r = (.ok a, r')) : r'.pathsSwitching = true := by
  unfold markSwitching RecoveryWorld.step Program.effect at run
  cases fault : e.faults .markSwitching with
  | none =>
    simp only [fault] at run
    cases run
    rfl
  | fail detail =>
    simp only [fault] at run
    cases run
  | crash =>
    simp only [fault] at run
    cases run

theorem marks_bind {α β : Type} {p : Restoring α} {f : α → Restoring β} (first : Keeps p Marks)
    (then_ : ∀ a, Keeps (f a) Marks) : Keeps (p >>= f) Marks :=
  Program.keeps_bind .trans first then_

theorem onData_marks (p : Recovering (Switch Tree) Unit) : Keeps (onData p) Marks :=
  fun _ _ => ⟨rfl, id⟩

theorem onSecrets_marks (p : Recovering (Switch Tree) Unit) : Keeps (onSecrets p) Marks :=
  fun _ _ => ⟨rfl, id⟩

theorem onConfig_marks (p : Recovering (Switch Bytes) Unit) : Keeps (onConfig p) Marks :=
  fun _ _ => ⟨rfl, id⟩

theorem switches_marks : Keeps (do
    onData (switchRecoveryPath .data)
    onSecrets (switchRecoveryPath .secrets)
    onConfig (switchRecoveryPath .config)) Marks :=
  marks_bind (onData_marks _) fun _ => marks_bind (onSecrets_marks _) fun _ => onConfig_marks _

theorem switchPaths_beside : Keeps switchPaths Beside :=
  beside_bind_marked markSwitching_beside markSwitching_marks fun _ => switches_marks

theorem switchPaths_marks (e : RecoveryAttempt) (r : Restore) (a : Unit) (r' : Restore)
    (run : switchPaths e r = (.ok a, r')) : r'.pathsSwitching = true := by
  obtain ⟨_, r₁, marked, switched⟩ := Program.run_bind_eq_ok run
  exact (switches_marks.run switched).2 (markSwitching_marks e r _ r₁ marked)

end paths


/-! ## One restore -/

section recover

theorem complete_marks (facts : RecoveryFacts) : Keeps (do
    step .complete (modify fun r => { r with completed := some facts })
    pure facts : Restoring RecoveryFacts) Marks :=
  marks_bind (Program.keeps_effect .refl _ _ (Program.keeps_modify _ fun _ => ⟨rfl, id⟩)) fun _ =>
    Program.keeps_pure .refl facts

variable (state : DeploymentState) (live : RuntimeObject) (snapshot : Snapshot)
  (operation : OperationId) (stateEpoch : Bytes)

theorem restoreSnapshot_beside :
    Keeps (restoreSnapshot state live snapshot operation stateEpoch) Beside :=
  beside_bind beside_environment fun _ =>
    beside_bind (beside_step _ (beside_require _ _)) fun _ =>
    beside_bind (prepareRecoveryArchive_beside snapshot) fun archive =>
    beside_bind (beside_step _ (beside_ofExcept _)) fun _ =>
    beside_bind (restoreDatabase_beside snapshot operation archive) fun _ =>
    beside_bind (beside_step _ (beside_ofExcept _)) fun _ =>
    beside_bind (beside_ofExcept _) fun _ =>
    beside_bind (stagePaths_beside archive _ _ _) fun _ =>
    beside_bind_marked switchPaths_beside switchPaths_marks fun _ => complete_marks _

/-- A restore that comes to its end has switched the paths. -/
theorem restoreSnapshot_marks {e : RecoveryAttempt} {r r' : Restore} {facts : RecoveryFacts}
    (run : restoreSnapshot state live snapshot operation stateEpoch e r = (.ok facts, r')) :
    r'.pathsSwitching = true := by
  obtain ⟨_, r₁, -, run⟩ := Program.run_bind_eq_ok run
  obtain ⟨_, r₂, -, run⟩ := Program.run_bind_eq_ok run
  obtain ⟨_, r₃, -, run⟩ := Program.run_bind_eq_ok run
  obtain ⟨_, r₄, -, run⟩ := Program.run_bind_eq_ok run
  obtain ⟨_, r₅, -, run⟩ := Program.run_bind_eq_ok run
  obtain ⟨_, r₆, -, run⟩ := Program.run_bind_eq_ok run
  obtain ⟨_, r₇, -, run⟩ := Program.run_bind_eq_ok run
  obtain ⟨_, r₈, -, run⟩ := Program.run_bind_eq_ok run
  obtain ⟨_, r₉, switched, run⟩ := Program.run_bind_eq_ok run
  exact ((complete_marks _).run run).2 (switchPaths_marks e r₈ _ r₉ switched)

variable (expectedManifest : Digest)

theorem recover_beside : Keeps (recover state expectedManifest stateEpoch operation) Beside := by
  apply beside_bind (admitRecovery_beside state expectedManifest)
  intro admitted
  apply beside_read
  intro r
  cases r.completed with
  | some facts =>
    exact beside_bind (beside_step _ (beside_pure ())) fun _ =>
      completedRecovery_beside _ operation facts
  | none => exact restoreSnapshot_beside state _ _ operation stateEpoch

/-- Without the marker and a completion record, a restore does not succeed. -/
theorem recover_unmarked {e : RecoveryAttempt} {r r' : Restore} {facts : RecoveryFacts}
    (incomplete : r.completed = none) (unmarked : r'.pathsSwitching = false) :
    recover state expectedManifest stateEpoch operation e r ≠ (.ok facts, r') := by
  intro run
  obtain ⟨admitted, r₁, admits, run⟩ := Program.run_bind_eq_ok run
  obtain ⟨read, r₂, reads, run⟩ := Program.run_bind_eq_ok run
  cases reads
  have before := (admitRecovery_beside state expectedManifest).run admits
  cases completed : r₁.completed with
  | some earlier =>
    simp only [completed] at run
    have later : Beside r₁ r' :=
      (beside_bind (beside_step .readCompletion (beside_pure ())) fun _ =>
        completedRecovery_beside admitted.1.manifest operation earlier).run run
    have same := before.completed (later.unmarked unmarked)
    rw [completed, incomplete] at same
    cases same
  | none =>
    simp only [completed] at run
    rw [restoreSnapshot_marks state _ _ operation stateEpoch run] at unmarked
    cases unmarked

end recover


/-! ## One attempt, from the stop to the restart -/

def Running (r : Restore) : Prop := r.runtime.any (·.running) = true

instance (r : Restore) : Decidable (Running r) := inferInstanceAs (Decidable (_ = true))

def halt (r : Restore) : Restore := { r with runtime := r.runtime.map (·.halted) }

def launch (r : Restore) : Restore := { r with runtime := r.runtime.map (·.launched) }

theorem halt_idle (r : Restore) : ¬Running (halt r) := by
  unfold Running halt
  cases r.runtime with
  | none => simp
  | some object => simp [RuntimeObject.halted]

theorem launch_running {r : Restore} (present : r.runtime.isSome = true) : Running (launch r) := by
  unfold Running launch
  cases found : r.runtime with
  | none => simp [found] at present
  | some object => simp [RuntimeObject.launched]

theorem Running.present {r : Restore} (running : Running r) : r.runtime.isSome = true := by
  unfold Running at running
  cases found : r.runtime with
  | none => simp [found] at running
  | some object => rfl

theorem unswitched_runtime (r : Restore) (runtime : Option RuntimeObject) :
    Unswitched r { r with runtime } :=
  ⟨id, fun _ => rfl, fun _ => rfl, fun _ => rfl, fun _ => rfl⟩

/-- How far the stop of the runtime came. -/
inductive Quiescing (e : RecoveryAttempt) (r : Restore) : Outcome Failure Bool → Restore → Prop
  | untouched (o : Outcome Failure Bool) (unfinished : ∀ was, o ≠ .ok was)
    (fault : e.faults .inspectRunning ≠ .none ∨ e.faults .stop ≠ .none) : Quiescing e r o r
  | idle (idle : ¬Running r) : Quiescing e r (.ok false) r
  | unconfirmed (o : Outcome Failure Bool) (unfinished : ∀ was, o ≠ .ok was)
    (inspected : e.faults .inspectRunning = .none) (stopped : e.faults .stop = .none)
    (fault : e.faults .inspectStopped ≠ .none) : Quiescing e r o (halt r)
  | quiesced (running : Running r) (inspected : e.faults .inspectRunning = .none)
    (stopped : e.faults .stop = .none) (confirmed : e.faults .inspectStopped = .none) :
    Quiescing e r (.ok true) (halt r)

theorem quiesceForRecovery_ensures (e : RecoveryAttempt) (r : Restore) :
    Program.Ensures quiesceForRecovery e (Quiescing e r) r := by
  unfold quiesceForRecovery runtimeRunning
  simp only [Program.ensures_bind, ensures_step, Program.ensures_get, Program.after_ok,
    Program.after_error, Program.after_crashed, Program.ensures_pure]
  refine ⟨fun inspected => ?_, fun d fault => .untouched _ (by simp) (.inl (by simp [fault])),
    fun fault => .untouched _ (by simp) (.inl (by simp [fault]))⟩
  by_cases running : r.runtime.any (·.running) = true
  · rw [if_pos running]
    simp only [Program.ensures_bind, ensures_step, Program.ensures_modify, Program.ensures_get,
      Program.after_ok, Program.after_error, Program.after_crashed, Program.ensures_pure,
      Program.ensures_require]
    refine ⟨fun stopped => ⟨fun confirmed =>
        ⟨fun _ => .quiesced running inspected stopped confirmed, ?_⟩,
      fun d fault => .unconfirmed _ (by simp) inspected stopped (by simp [fault]),
      fun fault => .unconfirmed _ (by simp) inspected stopped (by simp [fault])⟩,
      fun d fault => .untouched _ (by simp) (.inr (by simp [fault])),
      fun fault => .untouched _ (by simp) (.inr (by simp [fault]))⟩
    intro remained
    exact absurd (eq_true_of_ne_false remained) (halt_idle r)
  · rw [if_neg running]
    exact .idle running

theorem abortRecovery_unswitched (wasRunning : Bool) (failure : Failure) :
    Keeps (abortRecovery wasRunning failure) Unswitched := by
  have restarted : Keeps (restartOriginal failure) Unswitched := by
    refine Program.keeps_bind .trans (Program.keeps_attempt (Program.keeps_effect .refl _ _
      (Program.keeps_modify _ fun r => unswitched_runtime r _))) fun started => ?_
    cases started with
    | ok _ => exact Program.keeps_pure .refl _
    | error cleanup => exact Program.keeps_pure .refl _
  unfold abortRecovery
  by_cases was : wasRunning = true
  · rw [if_pos was]
    refine Program.keeps_bind .trans (Program.keeps_attempt (Program.keeps_effect .refl _ _
      (Program.keeps_bind .trans (Program.keeps_get .refl) fun _ => Program.keeps_pure .refl _)))
      fun marker => ?_
    rcases marker with _ | _ | _
    · exact Program.keeps_pure .refl _
    · exact restarted
    · exact Program.keeps_pure .refl _
  · rw [if_neg was]
    exact Program.keeps_pure .refl _

/-- Whatever happens to the restart, a failed restore has its answer. -/
theorem abortRecovery_answers (wasRunning : Bool) (failure : Failure) :
    Program.FailsOnly (abortRecovery wasRunning failure) fun _ => False := by
  have restarted : Program.FailsOnly (restartOriginal failure) fun _ => False := by
    refine Program.failsOnly_bind (Program.failsOnly_attempt _) fun started => ?_
    cases started with
    | ok _ => exact Program.failsOnly_pure _
    | error cleanup => exact Program.failsOnly_pure _
  unfold abortRecovery
  by_cases was : wasRunning = true
  · rw [if_pos was]
    refine Program.failsOnly_bind (Program.failsOnly_attempt _) fun marker => ?_
    rcases marker with _ | _ | _
    · exact Program.failsOnly_pure _
    · exact restarted
    · exact Program.failsOnly_pure _
  · rw [if_neg was]
    exact Program.failsOnly_pure _

/-- A restart follows a failed restore if the attempt itself has stopped the runtime and the
marker can be read. -/
theorem abortRecovery_restarts {e : RecoveryAttempt} {r r' : Restore} {failure aborted : Failure}
    (run : abortRecovery true failure e r = (.ok aborted, r'))
    (present : r.runtime.isSome = true) (idle : ¬Running r)
    (unmarked : r.pathsSwitching = false) (starts : e.faults .restart = .none) :
    Running r' ↔ e.faults .readMarker = .none := by
  unfold abortRecovery restartOriginal at run
  rw [if_pos rfl, Program.run_bind, Program.run_attempt] at run
  cases marker : e.faults .readMarker with
  | none =>
    rw [step_none _ _ marker] at run
    simp only [Program.run_bind_ok Program.run_get, Program.run_pure, unmarked] at run
    rw [Program.run_bind, Program.run_attempt, step_none _ _ starts] at run
    simp only [Program.run_modify, Program.run_pure, Prod.mk.injEq] at run
    rw [← run.2]
    exact iff_of_true (launch_running present) rfl
  | fail detail =>
    simp only [RecoveryWorld.step, Program.effect, marker, Program.run_pure, Prod.mk.injEq] at run
    rw [← run.2]
    exact iff_of_false idle (by simp)
  | crash => simp [RecoveryWorld.step, Program.effect, marker] at run


section attempts

variable {order : RecoveryOrder} {state : DeploymentState} {e : RecoveryAttempt} {r r' : Restore}

theorem quiesceForRecovery_unswitched : Keeps quiesceForRecovery Unswitched := by
  intro e r
  have quiescing : Quiescing e r (quiesceForRecovery e r).1 (quiesceForRecovery e r).2 :=
    quiesceForRecovery_ensures e r
  generalize (quiesceForRecovery e r).1 = o at quiescing
  generalize (quiesceForRecovery e r).2 = r' at quiescing
  cases quiescing with
  | untouched | idle => exact .refl r
  | unconfirmed | quiesced => exact unswitched_runtime r _

theorem recover_unswitched (operation : OperationId) (stateEpoch : Bytes) (manifest : Digest) :
    Keeps (recover state manifest stateEpoch operation) Unswitched :=
  fun e r => (recover_beside state operation stateEpoch manifest e r).toUnswitched

theorem restoreQuiesced_unswitched : Keeps (restoreQuiesced order state) Unswitched := by
  refine Program.keeps_bind .trans quiesceForRecovery_unswitched fun was => ?_
  refine Program.keeps_bind .trans (Program.keeps_attempt (recover_unswitched _ _ _)) fun o => ?_
  cases o with
  | ok facts => exact Program.keeps_pure .refl facts
  | error failure =>
    exact Program.keeps_bind .trans (abortRecovery_unswitched was failure) fun aborted =>
      Program.keeps_throw .refl aborted

theorem restoreQuiesced_unmarked {facts : RecoveryFacts} (incomplete : r.completed = none)
    (unmarked : r'.pathsSwitching = false) :
    restoreQuiesced order state e r ≠ (.ok facts, r') := by
  intro run
  obtain ⟨was, r₁, quiesces, run⟩ := Program.run_bind_eq_ok run
  obtain ⟨o, r₂, recovers, run⟩ := Program.run_bind_eq_ok run
  have before := quiesceForRecovery_unswitched.run quiesces
  cases o with
  | error failure =>
    obtain ⟨aborted, r₃, -, run⟩ := Program.run_bind_eq_ok run
    cases run
  | ok found =>
    cases run
    rw [Program.run_attempt] at recovers
    rcases ran : recover state order.expectedManifestSha256 order.stateEpoch order.operationId e r₁
      with ⟨answer | failure | _, r₂⟩
    · simp only [ran, Prod.mk.injEq, Outcome.ok.injEq, Except.ok.injEq] at recovers
      obtain ⟨rfl, rfl⟩ := recovers
      have kept := (recover_unswitched order.operationId order.stateEpoch
        order.expectedManifestSha256).run ran
      exact recover_unmarked state order.operationId order.stateEpoch order.expectedManifestSha256
        ((before.completed (kept.unmarked unmarked)).trans incomplete) unmarked ran
    · simp [ran] at recovers
    · simp [ran] at recovers

/-- The runtime after a restore that failed, as the attempt found it and what failed in it. -/
theorem restoreQuiesced_failed {failure : Failure}
    (run : restoreQuiesced order state e r = (.error failure, r'))
    (unmarked : r'.pathsSwitching = false) (starts : e.faults .restart = .none) :
    Running r' ↔ Running r ∧ (e.faults .inspectRunning = .none → e.faults .stop = .none →
      e.faults .inspectStopped = .none ∧ e.faults .readMarker = .none) := by
  have quiescing : Quiescing e r (quiesceForRecovery e r).1 (quiesceForRecovery e r).2 :=
    quiesceForRecovery_ensures e r
  unfold restoreQuiesced at run
  rcases ran : quiesceForRecovery e r with ⟨was | refusal | _, r₁⟩
  · rw [ran] at quiescing
    rw [Program.run_bind_ok ran, Program.run_bind, Program.run_attempt] at run
    rcases recovers : recover state order.expectedManifestSha256 order.stateEpoch
      order.operationId e r₁ with ⟨facts | refused | _, r₂⟩
    · simp [recovers, Program.run_pure] at run
    · simp only [recovers] at run
      have beside := (recover_beside state order.operationId order.stateEpoch
        order.expectedManifestSha256).run recovers
      rcases aborts : abortRecovery was refused e r₂ with ⟨aborted | failed | _, r₃⟩
      · rw [Program.run_bind_ok aborts] at run
        obtain rfl : r₃ = r' := congrArg Prod.snd run
        generalize ho : (Outcome.ok was : Outcome Failure Bool) = o at quiescing
        cases quiescing with
        | untouched o unfinished => exact absurd ho.symm (unfinished was)
        | unconfirmed o unfinished => exact absurd ho.symm (unfinished was)
        | idle idle =>
          cases ho
          cases aborts
          refine iff_of_false ?_ fun h => idle h.1
          rwa [Running, beside.runtime]
        | quiesced running inspected stopped confirmed =>
          cases ho
          have idle : ¬Running r₂ := by
            rw [Running, beside.runtime]
            exact halt_idle r
          have present : r₂.runtime.isSome = true := by
            rw [beside.runtime]
            simpa [halt] using running.present
          have still := ((abortRecovery_unswitched true refused).run aborts).unmarked unmarked
          rw [abortRecovery_restarts aborts present idle still starts]
          exact ⟨fun reads => ⟨running, fun _ _ => ⟨confirmed, reads⟩⟩,
            fun h => (h.2 inspected stopped).2⟩
      · exact absurd aborts (abortRecovery_answers was refused e r₂ failed r₃)
      · rw [Program.run_bind_crashed aborts] at run
        cases run
    · simp [recovers] at run
  · rw [Program.run_bind_error ran] at run
    cases run
    rw [ran] at quiescing
    cases quiescing with
    | untouched o unfinished fault =>
      have spared : e.faults .inspectRunning = .none → e.faults .stop = .none →
          e.faults .inspectStopped = .none ∧ e.faults .readMarker = .none :=
        fun inspected stopped => (fault.elim (absurd inspected) (absurd stopped))
      exact (and_iff_left spared).symm
    | unconfirmed o unfinished inspected stopped fault =>
      exact iff_of_false (halt_idle r) fun h => fault (h.2 inspected stopped).1
  · rw [Program.run_bind_crashed ran] at run
    cases run

end attempts

/-! ## The attempts of one order -/

section orders

variable {order : RecoveryOrder} {e : RecoveryAttempt}

/-- The attempt comes to the stop of the runtime, if the runtime runs. -/
def Admits (order : RecoveryOrder) (e : RecoveryAttempt) (scope : RecoveryScope) : Prop :=
  e.faults .loadState = .none ∧ ∃ state ∈ scope.state,
    state.config.revision = order.expectedRevision ∨ state.producedBy order.operationId

/-- What an attempt leaves: all as it was, or what its restore leaves. -/
inductive Answering (order : RecoveryOrder) (e : RecoveryAttempt) (scope : RecoveryScope) :
    Outcome Failure BackupRecovered → RecoveryScope → Prop
  | refused (o : Outcome Failure BackupRecovered) (refused : ¬Admits order e scope) :
    Answering order e scope o scope
  | aborted (state : DeploymentState) (failure : Failure) (r : Restore)
    (admits : Admits order e scope)
    (run : restoreQuiesced order state e scope.restore = (.error failure, r)) :
    Answering order e scope (.error failure) { scope with restore := r }
  | lost (state : DeploymentState) (r : Restore)
    (run : restoreQuiesced order state e scope.restore = (.crashed, r)) :
    Answering order e scope .crashed { scope with restore := r }
  | restored (o : Outcome Failure BackupRecovered) (state : DeploymentState)
    (facts : RecoveryFacts) (scope' : RecoveryScope)
    (run : restoreQuiesced order state e scope.restore = (.ok facts, scope'.restore)) :
    Answering order e scope o scope'

def SameRestore (scope scope' : RecoveryScope) : Prop := scope'.restore = scope.restore

theorem SameRestore.refl (scope : RecoveryScope) : SameRestore scope scope := rfl

theorem SameRestore.trans (s₀ s₁ s₂ : RecoveryScope) (h : SameRestore s₀ s₁)
    (h' : SameRestore s₁ s₂) : SameRestore s₀ s₂ := Eq.trans h' h

/-- The commit is about `state.json` only. -/
theorem commitRecovery_restore (order : RecoveryOrder) (facts : RecoveryFacts) :
    Keeps (commitRecovery order facts) SameRestore := by
  refine Program.keeps_effect .refl _ _ (Program.keeps_bind .trans (Program.keeps_get .refl)
    fun scope => ?_)
  cases scope.state with
  | none => exact Program.keeps_throw .refl _
  | some state =>
    exact Program.keeps_bind .trans (Program.keeps_ofExcept .refl _) fun state' =>
      Program.keeps_bind .trans (Program.keeps_modify _ fun _ => by rfl) fun _ =>
      Program.keeps_pure .refl state'

theorem answerBackupRecover_ensures (order : RecoveryOrder) (e : RecoveryAttempt)
    (scope : RecoveryScope) :
    Program.Ensures (answerBackupRecover order) e (Answering order e scope) scope := by
  unfold Program.Ensures answerBackupRecover
  by_cases admits : Admits order e scope
  · obtain ⟨fault, state, found, matched⟩ := id admits
    rw [Program.run_bind_ok (loadExisting_run fault found),
      Program.run_bind_ok (by rw [Program.run_require, if_pos matched])]
    rcases run : restoreQuiesced order state e scope.restore with ⟨facts | failure | _, r⟩
    · have ran : onRestore (restoreQuiesced order state) e scope =
          (.ok facts, { scope with restore := r }) := by
        simp [onRestore, Program.zoom, run]
      rw [Program.run_bind_ok ran]
      have kept := Program.keeps_bind .trans (commitRecovery_restore order facts)
        (fun committed => Program.keeps_pure .refl (BackupRecovered.mk facts.snapshotId
          facts.manifestSha256 committed.config.revision)) e { scope with restore := r }
      exact .restored _ state facts _ (run.trans (Prod.ext rfl kept.symm))
    · have ran : onRestore (restoreQuiesced order state) e scope =
          (.error failure, { scope with restore := r }) := by
        simp [onRestore, Program.zoom, run]
      rw [Program.run_bind_error ran]
      exact .aborted state failure r admits run
    · have ran : onRestore (restoreQuiesced order state) e scope =
          (.crashed, { scope with restore := r }) := by
        simp [onRestore, Program.zoom, run]
      rw [Program.run_bind_crashed ran]
      exact .lost state r run
  · cases fault : e.faults .loadState with
    | none =>
      cases found : scope.state with
      | none =>
        have refused : loadExisting e scope =
            (.error ⟨.deploymentUnknown, "no DeploymentState exists"⟩, scope) := by
          rw [loadExisting, stored_none _ _ fault, Program.run_bind_ok Program.run_get, found]
          rfl
        rw [Program.run_bind_error refused]
        exact .refused _ admits
      | some state =>
        have mismatch : ¬(state.config.revision = order.expectedRevision ∨
            state.producedBy order.operationId) :=
          fun matched => admits ⟨fault, state, found, matched⟩
        rw [Program.run_bind_ok (loadExisting_run fault found),
          Program.run_bind_error (by rw [Program.run_require, if_neg mismatch])]
        exact .refused _ admits
    | fail detail =>
      have refused : loadExisting e scope = (.error ⟨.deploymentUnknown, detail⟩, scope) := by
        simp [loadExisting, stored, Program.effect, fault]
      rw [Program.run_bind_error refused]
      exact .refused _ admits
    | crash =>
      have lost : loadExisting e scope = (.crashed, scope) := by
        simp [loadExisting, stored, Program.effect, fault]
      rw [Program.run_bind_crashed lost]
      exact .refused _ admits

/-- Attempts of the operation, however each of them ended. -/
def Attempts (order : RecoveryOrder) : RecoveryScope → RecoveryScope → Prop :=
  Relation.ReflTransGen fun scope scope' => ∃ e, (answerBackupRecover order e scope).2 = scope'

/-- Without the marker, the paths and the state are those of an earlier time. -/
structure SamePaths (before after : RecoveryScope) : Prop where
  data : after.restore.data.formal = before.restore.data.formal
  secrets : after.restore.secrets.formal = before.restore.secrets.formal
  config : after.restore.config.formal = before.restore.config.formal
  state : after.state = before.state

def Spared (before scope : RecoveryScope) : Prop :=
  scope.restore.pathsSwitching = false → SamePaths before scope ∧ scope.restore.completed = none

theorem Spared.restored {before scope : RecoveryScope} (h : Spared before scope) {r : Restore}
    (kept : Unswitched scope.restore r) : Spared before { scope with restore := r } := by
  intro unmarked
  obtain ⟨same, incomplete⟩ := h (kept.unmarked unmarked)
  exact ⟨⟨(kept.data unmarked).trans same.data, (kept.secrets unmarked).trans same.secrets,
    (kept.config unmarked).trans same.config, same.state⟩,
    (kept.completed unmarked).trans incomplete⟩

theorem Answering.spared {before scope scope' : RecoveryScope}
    {o : Outcome Failure BackupRecovered} (answering : Answering order e scope o scope')
    (h : Spared before scope) : Spared before scope' := by
  cases answering with
  | refused => exact h
  | aborted state failure r admits run => exact h.restored (restoreQuiesced_unswitched.run run)
  | lost state r run => exact h.restored (restoreQuiesced_unswitched.run run)
  | restored o state facts scope' run =>
    intro unmarked
    have incomplete := (h ((restoreQuiesced_unswitched.run run).unmarked unmarked)).2
    exact absurd run (restoreQuiesced_unmarked incomplete unmarked)

theorem Attempts.spared {before scope : RecoveryScope} (attempts : Attempts order before scope)
    (incomplete : before.restore.completed = none) : Spared before scope := by
  induction attempts with
  | refl => exact fun _ => ⟨⟨rfl, rfl, rfl, rfl⟩, incomplete⟩
  | @tail middle scope _ attempted ih =>
    obtain ⟨e, rfl⟩ := attempted
    have answering : Answering order e middle (answerBackupRecover order e middle).1 _ :=
      answerBackupRecover_ensures order e middle
    exact answering.spared ih

/-- The service is as it was: its runtime runs on the formal paths and the state of before. -/
structure AsBefore (before after : RecoveryScope) : Prop extends SamePaths before after where
  running : Running after.restore

/-- An attempt that is about to fail finds the runtime running, and once it has stopped it, it
can tell that it did and that the paths were not switched. -/
def Restarts (order : RecoveryOrder) (e : RecoveryAttempt) (scope : RecoveryScope) : Prop :=
  Running scope.restore ∧ (Admits order e scope → e.faults .inspectRunning = .none →
    e.faults .stop = .none → e.faults .inspectStopped = .none ∧ e.faults .readMarker = .none)

/-- After any attempts of a restore that has not begun to switch the paths, one that fails
leaves the service as it was exactly if it finds the runtime running and sees its own stop
through. -/
theorem aborted_restore_as_before (order : RecoveryOrder) {before scope scope' : RecoveryScope}
    {failure : Failure} (fresh : before.restore.completed = none)
    (attempts : Attempts order before scope)
    (failed : answerBackupRecover order e scope = (.error failure, scope'))
    (unmarked : scope'.restore.pathsSwitching = false) (starts : e.faults .restart = .none) :
    AsBefore before scope' ↔ Restarts order e scope := by
  have answering : Answering order e scope (answerBackupRecover order e scope).1
      (answerBackupRecover order e scope).2 := answerBackupRecover_ensures order e scope
  rw [failed] at answering
  have spared := attempts.spared fresh
  have same := (answering.spared spared unmarked).1
  have ran : Running scope'.restore ↔ Restarts order e scope := by
    cases answering with
    | refused o refused =>
      exact ⟨fun running => ⟨running, fun admits => absurd admits refused⟩, And.left⟩
    | aborted state failure r admits run =>
      rw [restoreQuiesced_failed run unmarked starts]
      exact and_congr_right fun _ => ⟨fun h _ => h, fun h => h admits⟩
    | restored o state facts scope' run =>
      have incomplete := (spared ((restoreQuiesced_unswitched.run run).unmarked unmarked)).2
      exact absurd run (restoreQuiesced_unmarked incomplete unmarked)
  exact ⟨fun h => ran.mp h.running, fun h => ⟨same, ran.mpr h⟩⟩

end orders

/-! ## A crash between the stop and an ordinary failure -/

def plainPlatform : RecoveryPlatform where
  sha256 := List.length
  isUtf8 _ := true
  signingKeyConfig _ := none
  validSigningKey key := key.length = 32
  parseUrl _ := some ⟨"postgres", "nazoauth", "/nazoauth"⟩
  published _ := none
  precedence _ _ := .eq
  reportsStoppedPorts := true
  serves object _ _ _ := object.running
  urlPassword _ := some "secret"
  renderUrl _ := []
  jsonString := id
  intact _ := true
  runtimeIdentity _ _ := none
  factDigest _ := 0
  recoveredDatabase _ := ⟨"nazo_recovered", by decide⟩

/-- An attempt that loses its process, or fails, at the snapshot's manifest. -/
def disturbed (fault : Fault String) : RecoveryAttempt where
  platform := plainPlatform
  faults effect := if effect = .loadManifest then fault else .none
  loaded := 0

def recoveryOrder : RecoveryOrder := ⟨12, 4, 7, []⟩

def servedScope : RecoveryScope where
  state := some releasedDeployment
  restore :=
    { runtime := some ⟨.oci "nazoauth" 1, true, true, [], [], [], [], []⟩
      snapshot := none
      extracted := none
      unpacking := false
      databasePlan := none
      databases := fun _ => none
      pathsSwitching := false
      completed := none
      data := ⟨some [], none, false, none⟩
      secrets := ⟨some [], none, false, none⟩
      config := ⟨some [], none, false, none⟩ }

theorem failed_restore_as_before : AsBefore servedScope
    (answerBackupRecover recoveryOrder (disturbed (.fail "unreadable")) servedScope).2 :=
  (@aborted_restore_as_before (disturbed (.fail "unreadable")) recoveryOrder servedScope servedScope
    _ _ rfl .refl (Prod.ext rfl rfl) rfl rfl).mpr ⟨rfl, fun _ _ _ => ⟨rfl, rfl⟩⟩

/-- The second attempt finds the runtime stopped and leaves it so. -/
theorem crashed_then_failed_restore :
    ¬∀ (order : RecoveryOrder) (before scope scope' : RecoveryScope) (e : RecoveryAttempt)
      (failure : Failure), Running before.restore → before.restore.completed = none →
        before.restore.pathsSwitching = false → Attempts order before scope →
        answerBackupRecover order e scope = (.error failure, scope') →
        scope'.restore.pathsSwitching = false → e.faults .restart = .none →
          AsBefore before scope' := by
  intro aborts
  have crashed : Attempts recoveryOrder servedScope
      (answerBackupRecover recoveryOrder (disturbed .crash) servedScope).2 :=
    .single ⟨disturbed .crash, rfl⟩
  have restored := aborts recoveryOrder servedScope _ _ (disturbed (.fail "unreadable"))
    (refuse "unreadable") rfl rfl rfl crashed (Prod.ext rfl rfl) rfl rfl
  exact absurd restored.running (by decide)

end NazoAuthCtl.RecoveryAbort
