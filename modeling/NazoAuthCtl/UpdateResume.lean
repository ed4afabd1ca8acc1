import NazoAuthCtl.UpdateReplay

/-!
# Resuming an update after crashes

Attempts of one order are cut off between their effects and the order is executed
again. Each attempt plans from the world it finds, so a resumed execution ends
like an uninterrupted one as long as the world it finds still shows what the
first plan was made from.
-/

set_option autoImplicit false
set_option linter.all false

namespace NazoAuthCtl.UpdateResume

open FaultProgram TargetState TargetWorld UpdateExec LifecycleDispatch UpdateAdmission UpdateSteps
  UpdateCompletion
open Program

/-- What inspection reports of the runtime, whether it runs aside. -/
def reported (platform : Platform) (kind : RuntimeBackendKind) (w : World) :
    Option RuntimeObservation :=
  w.runtime.map fun object => { observation platform kind object with running := false }

/-- What an overwritten unit keeps. -/
def runtimeCore (w : World) : Option RuntimeObject :=
  w.runtime.map fun object => object.halted.withBinary 0

variable {platform : Platform} {job : UpdateJob} {plan : UpdatePlan} {w₀ w w' : World}

theorem reported_same {kind : RuntimeBackendKind} {object : RuntimeObject}
    (same : reported platform kind w = reported platform kind w₀)
    (present : w₀.runtime = some object) :
    ∃ object', w.runtime = some object' ∧ observation platform kind object' =
      { observation platform kind object with running := object'.running } := by
  rw [reported, reported, present, Option.map_some] at same
  obtain ⟨object', hobject, h⟩ := Option.map_eq_some_iff.mp same
  exact ⟨object', hobject,
    congrArg (fun seen => { seen with running := object'.running }) h⟩

def UpdatePlan.resumed (plan : UpdatePlan) (running : Bool) : UpdatePlan :=
  { plan with observation := { plan.observation with running } }

/-- The plan of a resumed attempt is the first plan, but for the running flag. -/
theorem admission_resumed {object : RuntimeObject}
    (present : w₀.runtime = some object)
    (same : reported platform job.runtimeKind w = reported platform job.runtimeKind w₀)
    (config : job.config = none → w.config = w₀.config) (secrets : w.secrets = w₀.secrets)
    (admitted : admission platform job w₀ = .ok (some plan)) :
    ∃ object', w.runtime = some object' ∧
      admission platform job w = .ok (some (UpdatePlan.resumed plan object'.running)) := by
  obtain ⟨object', present', seen⟩ := reported_same same present
  refine ⟨object', present', ?_⟩
  have readConfig : updateConfig platform job w = updateConfig platform job w₀ := by
    cases hc : job.config with
    | none => simp only [updateConfig, hc, config hc]
    | some staged => simp only [updateConfig, hc]
  unfold admission at admitted ⊢
  split at admitted
  case isFalse => cases admitted
  rename_i declared
  rw [if_pos declared]
  simp only [present', seen, readConfig, secrets]
  rw [present] at admitted
  obtain ⟨⟨live, wasLive⟩, observed, admitted⟩ := bind_eq_ok admitted
  obtain ⟨release, hrelease, admitted⟩ := bind_eq_ok admitted
  obtain ⟨verified, hverified, admitted⟩ := bind_eq_ok admitted
  simp only at admitted
  split at admitted
  case isTrue => cases admitted
  rename_i needed
  obtain ⟨⟨text, current⟩, hconfig, admitted⟩ := bind_eq_ok admitted
  obtain ⟨_, key, admitted⟩ := bind_eq_ok admitted
  obtain ⟨⟨replacement, before⟩, planned, admitted⟩ := bind_eq_ok admitted
  cases admitted
  have observed' : admitObservation job { observation platform job.runtimeKind object with
      running := object'.running } = .ok (live, wasLive) := observed
  have planned' : planReplacement job { observation platform job.runtimeKind object with
      running := object'.running } live verified = .ok (replacement, before) := planned
  simp only [observed', hrelease, hverified, ok_bind, if_neg needed, hconfig, key, planned']
  rfl

/-! ## Staging left by cut-off attempts -/

/-- What an order saves and writes: the snapshot it takes, and the config it puts
in its place. -/
structure Staging where
  operation : OperationId
  schema : ConfigSchema
  replacing : Option ConfigSchema
  current : Option Bytes
  content : Option Bytes

def Staging.Snapshots (platform : Platform) (s : Staging) : World → Outcome Failure Unit → World →
    Prop :=
  Snapshotted platform s.operation s.schema s.replacing s.current

/-- The old config is saved, when there is one. -/
def Staging.Saves (platform : Platform) (s : Staging) (w w₁ : World) : Prop :=
  w.config.isSome ∧ s.Snapshots platform w (.ok ()) w₁ ∨ w.config = none ∧ w₁ = w

def updateStaging (job : UpdateJob) (plan : UpdatePlan) : Staging :=
  ⟨job.operationId, job.configSchema, job.config.map (·.schema), plan.currentConfig,
    job.config.map (·.content)⟩

section staging

variable {s : Staging} {w₁ : World} {o : Outcome Failure Unit}

theorem Snapshots.moved (h : s.Snapshots platform w (.ok ()) w₁)
    (snapshots : w'.configSnapshots = w.configSnapshots) (config : w'.config = w.config) :
    s.Snapshots platform w' (.ok ()) { w' with configSnapshots := w₁.configSnapshots } := by
  cases h with
  | bytesOnly _ unfinished => exact absurd rfl unfinished
  | resumed record bytes present obsolete owner digest schemas =>
    rw [← snapshots]
    exact .resumed record bytes (by rw [snapshots]; exact present) obsolete owner digest schemas
  | saved bytes source absent =>
    have := @Snapshotted.saved platform s.operation s.schema s.replacing _ w' bytes
      (by rw [config]; exact source)
      (by rw [snapshots]; exact absent)
    simpa [Staging.Snapshots, setSnapshot, snapshots] using this

/-- A finished snapshot is what a resumed attempt accepts. -/
theorem Snapshots.again (h : s.Snapshots platform w (.ok ()) w₁)
    (snapshots : w'.configSnapshots = w₁.configSnapshots) :
    s.Snapshots platform w' (.ok ()) w' := by
  cases h with
  | bytesOnly _ unfinished => exact absurd rfl unfinished
  | resumed record bytes present obsolete owner digest schemas =>
    exact .resumed record bytes (by rw [snapshots]; exact present) obsolete owner digest schemas
  | saved bytes source absent =>
    exact .resumed _ bytes (by rw [snapshots]; simp [setSnapshot, completeSnapshot]; rfl) rfl rfl rfl
      ⟨rfl, rfl⟩

theorem Snapshots.complete (h : s.Snapshots platform w (.ok ()) w₁) :
    (w₁.configSnapshots s.operation).record.isSome := by
  cases h with
  | bytesOnly _ unfinished => exact absurd rfl unfinished
  | resumed record bytes present => simp [present]
  | saved => simp [setSnapshot, completeSnapshot]

theorem Snapshots.unique {w₂ : World} (h : s.Snapshots platform w (.ok ()) w₁)
    (h' : s.Snapshots platform w (.ok ()) w₂) : w₂ = w₁ := by
  cases h with
  | bytesOnly _ unfinished => exact absurd rfl unfinished
  | resumed record bytes complete =>
    cases h' with
    | bytesOnly _ unfinished => exact absurd rfl unfinished
    | resumed => rfl
    | saved _ _ noRecord => simp [complete] at noRecord
  | saved bytes source noRecord =>
    cases h' with
    | bytesOnly _ unfinished => exact absurd rfl unfinished
    | resumed record _ complete => simp [complete] at noRecord
    | saved bytes' source' =>
      rw [source] at source'
      cases source'
      rfl

/-- What cut-off attempts can leave of the staging: nothing, the bytes half of the
snapshot, or the whole snapshot and perhaps the staged config. -/
inductive StagingLeft (platform : Platform) (s : Staging) (w₀ w : World) : Prop
  | untouched (config : w.config = w₀.config) (snapshots : w.configSnapshots = w₀.configSnapshots)
  | begun (bytes : Bytes) (present : w₀.config.isSome)
      (source : s.current.or w₀.config = some bytes)
      (absent : (w₀.configSnapshots s.operation).record = none)
      (config : w.config = w₀.config)
      (snapshots : w.configSnapshots =
        (setSnapshot w₀ s.operation ⟨some bytes, none⟩).configSnapshots)
  | saved (w₁ : World) (saved : s.Saves platform w₀ w₁)
      (snapshots : w.configSnapshots = w₁.configSnapshots)
      (config : w.config = w₀.config ∨ ∃ bytes, s.content = some bytes ∧ w.config = some bytes)

theorem StagingLeft.config_cases (left : StagingLeft platform s w₀ w) :
    w.config = w₀.config ∨ ∃ bytes, s.content = some bytes ∧ w.config = some bytes := by
  cases left with
  | untouched config => exact .inl config
  | begun _ _ _ _ config => exact .inl config
  | saved _ _ _ config => exact config

theorem StagingLeft.unstaged (left : StagingLeft platform s w₀ w) (unstaged : s.content = none) :
    w.config = w₀.config := by
  rcases left.config_cases with config | ⟨bytes, present, -⟩
  · exact config
  · simp [unstaged] at present

/-- Only the config and its snapshots matter. -/
theorem StagingLeft.moved {w₀' : World} (left : StagingLeft platform s w₀ w)
    (config₀ : w₀'.config = w₀.config) (snapshots₀ : w₀'.configSnapshots = w₀.configSnapshots)
    (config' : w'.config = w.config) (snapshots' : w'.configSnapshots = w.configSnapshots) :
    StagingLeft platform s w₀' w' := by
  cases left with
  | untouched config snapshots =>
    exact .untouched (config'.trans (config.trans config₀.symm))
      (snapshots'.trans (snapshots.trans snapshots₀.symm))
  | begun bytes present source absent config snapshots =>
    refine .begun bytes (by rw [config₀]; exact present) (by rw [config₀]; exact source)
      (by rw [snapshots₀]; exact absent) (config'.trans (config.trans config₀.symm)) ?_
    rw [snapshots', snapshots]
    simp [setSnapshot, snapshots₀]
  | saved w₁ saved snapshots config =>
    refine .saved { w₀' with configSnapshots := w₁.configSnapshots } ?_
      (snapshots'.trans snapshots) (by rw [config', config₀]; exact config)
    rcases saved with ⟨present, snapshot⟩ | ⟨absent, rfl⟩
    · exact .inl ⟨by rw [config₀]; exact present, Snapshots.moved snapshot snapshots₀ config₀⟩
    · exact .inr ⟨config₀.trans absent, by rw [← snapshots₀]⟩

variable (left : StagingLeft platform s w₀ w) (noConfig : w₀.config = none → w.config = none)

include left noConfig

theorem StagingLeft.isSome : w.config.isSome = w₀.config.isSome := by
  cases before : w₀.config with
  | none => rw [noConfig before]
  | some bytes =>
    rcases left.config_cases with config | ⟨bytes, -, config⟩ <;> simp [config, before]

/-- A resumed attempt completes the snapshot that an uninterrupted one takes. -/
theorem StagingLeft.resumes (saved : s.Saves platform w₀ w₁) :
    s.Saves platform w { w with configSnapshots := w₁.configSnapshots } := by
  rcases saved with ⟨present, snapshot⟩ | ⟨absent, rfl⟩
  · refine .inl ⟨by rw [left.isSome noConfig]; exact present, ?_⟩
    cases left with
    | untouched config snapshots => exact Snapshots.moved snapshot snapshots config
    | begun bytes _ source noRecord config snapshots =>
      cases snapshot with
      | bytesOnly _ unfinished => exact absurd rfl unfinished
      | resumed record _ complete => simp [complete] at noRecord
      | saved bytes' source' =>
        rw [source] at source'
        cases source'
        have := @Snapshotted.saved platform s.operation s.schema s.replacing _ w bytes
          (by rw [config]; exact source) (by simp [snapshots, setSnapshot])
        simpa [Staging.Snapshots, setSnapshot, snapshots] using this
    | saved w₂ saved₂ snapshots config =>
      rcases saved₂ with ⟨-, snapshot₂⟩ | ⟨absent, -⟩
      · rw [← Snapshots.unique snapshot snapshot₂, ← snapshots]
        exact Snapshots.again snapshot₂ snapshots
      · simp [absent] at present
  · refine .inr ⟨noConfig absent, ?_⟩
    cases left with
    | untouched _ snapshots => rw [← snapshots]
    | begun _ present => simp [absent] at present
    | saved w₂ saved₂ snapshots =>
      rcases saved₂ with ⟨present, -⟩ | ⟨-, rfl⟩
      · simp [absent] at present
      · rw [← snapshots]

/-- The snapshot a resumed attempt completes is one an uninterrupted attempt takes. -/
theorem StagingLeft.resumed (saved : s.Saves platform w w') :
    ∃ w₁, s.Saves platform w₀ w₁ ∧ w'.configSnapshots = w₁.configSnapshots := by
  rcases saved with ⟨present, snapshot⟩ | ⟨absent, rfl⟩
  · cases left with
    | untouched config snapshots =>
      exact ⟨_, .inl ⟨by rw [← config]; exact present,
        Snapshots.moved snapshot snapshots.symm config.symm⟩, rfl⟩
    | begun bytes _ source noRecord config snapshots =>
      refine ⟨_, .inl ⟨by rw [← config]; exact present, .saved bytes source noRecord⟩, ?_⟩
      cases snapshot with
      | bytesOnly _ unfinished => exact absurd rfl unfinished
      | resumed record _ complete => simp [snapshots, setSnapshot] at complete
      | saved bytes' source' =>
        rw [config, source] at source'
        cases source'
        simp [setSnapshot, snapshots]
    | saved w₂ saved₂ snapshots config =>
      refine ⟨w₂, saved₂, ?_⟩
      rcases saved₂ with ⟨-, snapshot₂⟩ | ⟨absent, -⟩
      · cases snapshot with
        | bytesOnly _ unfinished => exact absurd rfl unfinished
        | resumed => exact snapshots
        | saved _ _ noRecord =>
          have := Snapshots.complete snapshot₂
          rw [← snapshots, noRecord] at this
          cases this
      · simp [noConfig absent] at present
  · cases left with
    | untouched config snapshots => exact ⟨w₀, .inr ⟨config ▸ absent, rfl⟩, snapshots⟩
    | begun _ present _ _ config => simp [← config, absent] at present
    | saved w₂ saved₂ snapshots => exact ⟨w₂, saved₂, snapshots⟩

/-- The snapshot taken by a resumed attempt, however far it comes, leaves the same
kind of remains. -/
theorem StagingLeft.snapshot (present : s.current.isSome → w.config.isSome)
    (snapshot : s.Snapshots platform w o w') : StagingLeft platform s w₀ w' := by
  have source : ∀ bytes, s.current.or w.config = some bytes → w.config.isSome := by
    intro bytes h
    cases hc : s.current with
    | none => simp_all
    | some _ => exact present (by simp [hc])
  cases snapshot with
  | refused => exact left
  | lost => exact left
  | resumed => exact left
  | saved bytes hsource absent =>
    obtain ⟨w₂, saved₂, same⟩ := left.resumed noConfig
      (.inl ⟨source bytes hsource, .saved bytes hsource absent⟩)
    exact .saved w₂ saved₂ same left.config_cases
  | bytesOnly _ _ bytes hsource noRecord =>
    have some := source bytes hsource
    cases left with
    | untouched config snapshots =>
      rw [config] at hsource some
      exact .begun bytes some hsource (by rw [← snapshots]; exact noRecord) config
        (by simp [setSnapshot, snapshots])
    | begun bytes' present' source' absent config snapshots =>
      exact .begun bytes present' (by rw [← config]; exact hsource) absent config
        (by simp [setSnapshot, snapshots])
    | saved w₁ saved snapshots =>
      rcases saved with ⟨-, snapshot⟩ | ⟨absent, -⟩
      · have := Snapshots.complete snapshot
        rw [← snapshots, noRecord] at this
        cases this
      · simp [noConfig absent] at some

/-- Writing the config after the snapshot leaves the same kind of remains. -/
theorem StagingLeft.written {bytes : Bytes} (saved : s.Saves platform w w₁)
    (content : s.content = some bytes) :
    StagingLeft platform s w₀ { w₁ with config := some bytes } := by
  obtain ⟨w₂, saved₂, same⟩ := left.resumed noConfig saved
  exact .saved w₂ saved₂ same (.inr ⟨bytes, content, rfl⟩)

end staging

/-- Staging by a resumed attempt, however far it comes, leaves the same kind of remains. -/
theorem StagingLeft.staged {plan' : UpdatePlan} {run run' : Running} {o : Outcome Failure Unit}
    (left : StagingLeft platform (updateStaging job plan) w₀ run.world)
    (noConfig : w₀.config = none → run.world.config = none)
    (sameSource : plan'.currentConfig = plan.currentConfig)
    (staged : Staged platform job plan' run o run') :
    StagingLeft platform (updateStaging job plan) w₀ run'.world := by
  cases staged with
  | unsaved unfinished w₁ present snapshot =>
    rw [sameSource] at snapshot
    exact left.snapshot noConfig (fun _ => present) snapshot
  | unwritten w₁ saved finished =>
    rw [Saved, sameSource] at saved
    rcases saved with ⟨present, snapshot⟩ | ⟨-, rfl⟩
    · exact left.snapshot noConfig (fun _ => present) snapshot
    · exact left
  | written w₁ staged saved present =>
    rw [Saved, sameSource] at saved
    exact left.written noConfig saved (by simp [updateStaging, present])

/-! ## What cut-off attempts of an update leave -/

@[simp] theorem withBinary_withBinary (object : RuntimeObject) (a b : Digest) :
    (object.withBinary a).withBinary b = object.withBinary b := by
  rcases object with ⟨artifact, _⟩
  cases artifact <;> rfl

theorem core_after_halted {object : RuntimeObject} (event : RuntimeEvent)
    (present : w.runtime = some object) :
    runtimeCore (w.after (some object.halted) event) = runtimeCore w := by
  simp [runtimeCore, present, RuntimeObject.halted]

theorem core_after_launched {object : RuntimeObject} (event : RuntimeEvent)
    (present : w.runtime = some object) :
    runtimeCore (w.after (some object.launched) event) = runtimeCore w := by
  simp [runtimeCore, present, RuntimeObject.halted, RuntimeObject.launched]

theorem core_after_binary {object : RuntimeObject} (event : RuntimeEvent) (digest : Digest)
    (present : w.runtime = some object) :
    runtimeCore (w.after (some (object.halted.withBinary digest)) event) = runtimeCore w := by
  have halted : (object.halted.withBinary digest).halted = object.halted.withBinary digest := rfl
  simp [runtimeCore, present, halted]

theorem Replaced.core {kind : RuntimeBackendKind} {replacement : RuntimeReplacement}
    {o : Outcome Failure Unit} (h : Replaced kind replacement w o w')
    (unit : kind.isContainer = false) : runtimeCore w' = runtimeCore w := by
  cases h with
  | kept => rfl
  | removed _ _ container => simp [unit] at container
  | created container => simp [unit] at container
  | unitStopped _ _ _ object present => exact core_after_halted _ present
  | overwritten _ object present path digest =>
    have := @core_after_binary (w.after (some object.halted) .stopped) object.halted
      (.created (object.halted.withBinary digest)) digest rfl
    exact this.trans (core_after_halted _ present)

theorem writerStopped.core {running : Bool} (h : writerStopped running w w') :
    runtimeCore w' = runtimeCore w := by
  unfold writerStopped at h
  split at h
  · obtain ⟨object, present, rfl⟩ := h
    exact core_after_halted _ present
  · rw [h]

/-- Activation of a unit changes its executable and whether it runs. -/
theorem Activating.core {run run' : Running} {o : Outcome Failure Unit}
    (h : Activating job plan run o run') (unit : job.runtimeKind.isContainer = false) :
    runtimeCore run'.world = runtimeCore run.world := by
  cases h with
  | notNeeded => rfl
  | unstopped => rfl
  | unreplaced _ _ _ _ _ _ stopped replaced =>
    exact (Replaced.core replaced unit).trans (writerStopped.core stopped)
  | unstarted _ _ _ _ _ _ stopped replaced =>
    exact (Replaced.core replaced unit).trans (writerStopped.core stopped)
  | activated _ _ _ _ stopped replaced _ present =>
    exact (core_after_launched _ present).trans
      ((Replaced.core replaced unit).trans (writerStopped.core stopped))

theorem Activating.unneeded {run run' : Running} {o : Outcome Failure Unit}
    (h : Activating job plan run o run') (absent : plan.replacement = none) :
    run'.world = run.world := by
  cases h with
  | notNeeded => rfl
  | unstopped => rfl
  | unreplaced _ _ _ planned => simp [absent] at planned
  | unstarted _ _ _ planned => simp [absent] at planned
  | activated _ planned => simp [absent] at planned

/-- What cut-off attempts of an update leave, compared with the world in which the
order was accepted under a plan. -/
structure Provisional (e₀ : Attempt) (job : UpdateJob) (plan : UpdatePlan) (w₀ w : World) :
    Prop where
  state : w.state = w₀.state
  secrets : w.secrets = w₀.secrets
  backup : w.backup = w₀.backup
  recorded : (w.accepted job.operationId).or e₀.oneShot.decides =
    (w₀.accepted job.operationId).or e₀.oneShot.decides
  staging : StagingLeft e₀.platform (updateStaging job plan) w₀ w
  core : job.runtimeKind.isContainer = false → runtimeCore w = runtimeCore w₀
  unneeded : plan.replacement = none → w.runtime = w₀.runtime

/-- No answer the server can give in these attempts makes the update irreversible. -/
def NeverApplied (e₀ : Attempt) (job : UpdateJob) (w₀ : World) : Prop :=
  job.migrationJws.isSome → ∀ result,
    (w₀.accepted job.operationId).or e₀.oneShot.decides = some result →
      result.outcome = .succeeded → migrationRequiresRecovery result = false

theorem Provisional.unstaged {e₀ : Attempt} (h : Provisional e₀ job plan w₀ w)
    (unstaged : job.config = none) : w.config = w₀.config :=
  h.staging.unstaged (by simp [updateStaging, unstaged])

theorem Provisional.refl (e₀ : Attempt) (job : UpdateJob) (plan : UpdatePlan) (w₀ : World) :
    Provisional e₀ job plan w₀ w₀ :=
  ⟨rfl, rfl, rfl, rfl, .untouched rfl rfl, fun _ => rfl, fun _ => rfl⟩

theorem recorded_again {e : Attempt} {decides : Option ControlResult} (decided : Decided e decides)
    (operation : OperationId) (w : World) :
    ((recordAccepted operation decides w).accepted operation).or e.oneShot.decides =
      (w.accepted operation).or e.oneShot.decides := by
  rw [recordAccepted_apply]
  rcases decided with rfl | rfl <;> cases w.accepted operation <;> simp

/-- Dispatching an unapplied migration leaves the document and the server's answer. -/
theorem Dispatched.provisional {e e₀ : Attempt} {run run' : Running}
    {o : Outcome Failure (Option ControlResult)} (h : Dispatched job plan e run o run')
    (server : e.oneShot = e₀.oneShot)
    (recorded : (run.world.accepted job.operationId).or e₀.oneShot.decides =
      (w₀.accepted job.operationId).or e₀.oneShot.decides)
    (unapplied : NeverApplied e₀ job w₀) :
    run'.world.state = run.world.state ∧
      (run'.world.accepted job.operationId).or e₀.oneShot.decides =
        (w₀.accepted job.operationId).or e₀.oneShot.decides ∧
      (run.performed.migrationApplied = false → run'.performed.migrationApplied = false) := by
  have again : ∀ decides, Decided e decides →
      ((recordAccepted job.operationId decides run.world).accepted job.operationId).or
        e₀.oneShot.decides = (w₀.accepted job.operationId).or e₀.oneShot.decides := by
    intro decides decided
    rw [← server, recorded_again decided, server, recorded]
  cases h with
  | notOrdered => exact ⟨rfl, recorded, id⟩
  | unreached => exact ⟨rfl, recorded, id⟩
  | unknown _ _ _ decides decided => exact ⟨rfl, again decides decided, id⟩
  | rejected => exact ⟨rfl, recorded, id⟩
  | failed _ _ decides decided => exact ⟨rfl, again decides decided, id⟩
  | unchanged _ _ decides decided => exact ⟨rfl, again decides decided, fun _ => rfl⟩
  | applied _ w' result ordered decides decided outcome answered irreversible =>
    have held : (w₀.accepted job.operationId).or e₀.oneShot.decides = some result := by
      rw [← again decides decided, show _ = some result from answered]
      rfl
    rw [unapplied ordered result held outcome] at irreversible
    cases irreversible

namespace Provisional

variable {e₀ e : Attempt} {run run' : Running} {plan' : UpdatePlan}

theorem kept (h : Provisional e₀ job plan w₀ w) (kept : KeptArtifacts w w') :
    Provisional e₀ job plan w₀ w' where
  state := kept.state.trans h.state
  secrets := kept.secrets.trans h.secrets
  backup := kept.backup.trans h.backup
  recorded := by rw [kept.accepted]; exact h.recorded
  staging := h.staging.moved rfl rfl kept.config kept.snapshots
  core unit := by
    rw [runtimeCore, kept.runtime]
    exact h.core unit
  unneeded absent := kept.runtime.trans (h.unneeded absent)

theorem staged_of {o : Outcome Failure Unit} (h : Provisional e₀ job plan w₀ run.world)
    (noConfig : w₀.config = none → run.world.config = none)
    (sameSource : plan'.currentConfig = plan.currentConfig)
    (staged : Staged e₀.platform job plan' run o run') : Provisional e₀ job plan w₀ run'.world where
  state := by rw [staged.world]; exact h.state
  secrets := by rw [staged.world]; exact h.secrets
  backup := by rw [staged.world]; exact h.backup
  recorded := by rw [staged.world]; exact h.recorded
  staging := h.staging.staged noConfig sameSource staged
  core unit := by
    rw [staged.world]
    exact h.core unit
  unneeded absent := by rw [staged.world]; exact h.unneeded absent

theorem dispatched {o : Outcome Failure (Option ControlResult)}
    (h : Provisional e₀ job plan w₀ run.world) (server : e.oneShot = e₀.oneShot)
    (unapplied : NeverApplied e₀ job w₀) (dispatched : Dispatched job plan' e run o run') :
    Provisional e₀ job plan w₀ run'.world := by
  obtain ⟨state, recorded, -⟩ := Dispatched.provisional dispatched server h.recorded unapplied
  have staging : StagingLeft e₀.platform (updateStaging job plan) w₀ run'.world := by
    rw [dispatched.world]
    exact h.staging.moved rfl rfl rfl rfl
  exact {
    state := state.trans h.state
    secrets := by rw [dispatched.world]; exact h.secrets
    backup := by rw [dispatched.world]; exact h.backup
    recorded, staging
    core := fun unit => by rw [dispatched.world]; exact h.core unit
    unneeded := fun absent => by rw [dispatched.world]; exact h.unneeded absent }

theorem activating {o : Outcome Failure Unit} (h : Provisional e₀ job plan w₀ run.world)
    (sameReplacement : plan'.replacement = plan.replacement)
    (activating : Activating job plan' run o run') : Provisional e₀ job plan w₀ run'.world := by
  have staging : StagingLeft e₀.platform (updateStaging job plan) w₀ run'.world := by
    rw [activating.world]
    exact h.staging.moved rfl rfl rfl rfl
  exact {
    state := by rw [activating.world]; exact h.state
    secrets := by rw [activating.world]; exact h.secrets
    backup := by rw [activating.world]; exact h.backup
    recorded := by rw [activating.world]; exact h.recorded
    staging
    core := fun unit => (Activating.core activating unit).trans (h.core unit)
    unneeded := fun absent => by
      rw [Activating.unneeded activating (sameReplacement.trans absent)]
      exact h.unneeded absent }

/-- One more cut-off attempt, from a world that still shows what was planned for. -/
theorem step (h : Provisional e₀ job plan w₀ w)
    (admitted : admission e₀.platform job w₀ = .ok (some plan))
    (unapplied : NeverApplied e₀ job w₀)
    (same : reported e₀.platform job.runtimeKind w = reported e₀.platform job.runtimeKind w₀)
    (noConfig : w₀.config = none → w.config = none)
    (platform : e.platform = e₀.platform) (server : e.oneShot = e₀.oneShot)
    (cut : runUpdate job e ⟨w, freshSteps job⟩ = (.crashed, run)) :
    Provisional e₀ job plan w₀ run.world := by
  have ran : Ran job e ⟨w, freshSteps job⟩ .crashed run := by
    have := runUpdate_ensures job e ⟨w, freshSteps job⟩
    rwa [Ensures, cut] at this
  cases ran with
  | refused _ _ w₁ keeps => exact h.kept keeps
  | carried plan' admitted' _ _ carriedOut =>
    obtain ⟨object, live, established⟩ := admission_some admitted
    obtain ⟨object', -, again⟩ :=
      admission_resumed established.present same h.unstaged h.secrets admitted
    rw [platform, again] at admitted'
    cases admitted'
    have kept := h.kept (keepArtifact_kept plan.verified.runtimeArtifact w)
    have noConfig' : w₀.config = none →
        (keepArtifact plan.verified.runtimeArtifact w).config = none := by
      rw [(keepArtifact_kept _ w).config]
      exact noConfig
    have source : (UpdatePlan.resumed plan object'.running).currentConfig = plan.currentConfig :=
      rfl
    have replacement : (UpdatePlan.resumed plan object'.running).replacement = plan.replacement :=
      rfl
    cases carriedOut with
    | unstaged _ _ _ _ _ staged =>
      rw [platform] at staged
      exact staged_of kept noConfig' source staged
    | undispatched _ _ run₁ _ _ _ staged dispatched =>
      rw [platform] at staged
      exact (staged_of kept noConfig' source staged).dispatched server unapplied dispatched
    | unactivated _ _ run₁ run₂ _ _ _ staged dispatched activating =>
      rw [platform] at staged
      exact ((staged_of kept noConfig' source staged).dispatched server unapplied
        dispatched).activating replacement activating
    | uncommitted _ _ run₁ run₂ _ staged dispatched activating =>
      rw [platform] at staged
      exact ((staged_of kept noConfig' source staged).dispatched server unapplied
        dispatched).activating replacement activating

end Provisional

/-! ## The completed attempt -/

/-- A completed update, with the run that completed it. -/
structure UpdateCompleted (order : UpdateOrder) (e : Attempt) (w : World)
    (state : DeploymentState) (job : UpdateJob) (execution : UpdateExecution) (run : Running) :
    Prop where
  loaded : w.state = some state
  precondition :
    validateBackupPrecondition order.backupPrecondition w.backup e.now = .ok ()
  built : updateJob order state = .ok job
  own : ∀ operation ∈ job.appliedMigrationOperationId, operation = job.operationId
  ran : runUpdate job e ⟨w, freshSteps job⟩ = (.ok execution, run)
  answered : answerUpdate order e w = (.ok (completionOfUpdate execution), run.world)

theorem answerUpdate_completed {order : UpdateOrder} {e : Attempt} {completion : CompletionBody}
    (h : (answerUpdate order e w).1 = .ok completion) (completes : completion.completes) :
    ∃ state job execution run, UpdateCompleted order e w state job execution run := by
  have key : Ensures (answerUpdate order) e (fun o w' => o = .ok completion →
      ∃ state job execution run, w.state = some state ∧
        validateBackupPrecondition order.backupPrecondition w.backup e.now = .ok () ∧
        updateJob order state = .ok job ∧
        (∀ operation ∈ job.appliedMigrationOperationId, operation = job.operationId) ∧
        runUpdate job e ⟨w, freshSteps job⟩ = (.ok execution, run) ∧
        completion = completionOfUpdate execution ∧ w' = run.world) w := by
    apply answerUpdate_ensures
    · intro o unfinished h
      exact absurd h (unfinished _)
    intro state job o run loaded precondition built own ran _
    apply (UpdateReplay.concludeUpdate_passes job run.performed o e run.world).mono
    rintro o' w' ⟨activated, noop⟩
    cases o' with
    | error x => simp
    | crashed => simp
    | ok execution =>
      rintro ⟨⟩
      cases execution with
      | noop revision =>
        obtain ⟨rfl, rfl⟩ := noop revision rfl
        exact ⟨state, job, _, run, loaded, precondition, built, own, ran, rfl, rfl⟩
      | activated facts =>
        obtain ⟨rfl, rfl⟩ := activated facts rfl
        exact ⟨state, job, _, run, loaded, precondition, built, own, ran, rfl, rfl⟩
      | migrationFailed result => exact completes.elim
      | recoveryRequired result detail => exact completes.elim
  obtain ⟨state, job, execution, run, loaded, precondition, built, own, ran, same, world⟩ := key h
  exact ⟨state, job, execution, run, loaded, precondition, built, own, ran,
    Prod.ext (h.trans (by rw [same])) world⟩

/-- The phases of a completed activation. -/
structure Activated (job : UpdateJob) (plan : UpdatePlan) (e : Attempt) (run : Running)
    (facts : LifecycleFacts) (run' run₁ run₂ run₃ : Running) (state state' : DeploymentState) :
    Prop where
  staged : Staged e.platform job plan (retained plan run) (.ok ()) run₁
  dispatch : dispatchMigration job plan e run₁ = (.ok none, run₂)
  dispatched : Dispatched job plan e run₁ (.ok none) run₂
  activating : Activating job plan run₂ (.ok ()) run₃
  confirmed : Confirmed e.platform job.runtimeKind plan.verified.digest job.port job.issuer
    run₃.world
  before : run₃.world.state = some state
  after : applyUpdateHealthyFromLive state job.expectedRevision
    (updateCommit job plan run₃.performed) plan.recordedCurrentWasLive = .ok state'
  facts_eq : facts =
    ⟨state'.config.revision, state'.currentRelease, run₃.performed.migrationResult⟩
  finished : run' = { run₃ with world := { run₃.world with state := some state' } }

theorem carryOut_activated {e : Attempt} {run run' : Running} {facts : LifecycleFacts}
    (h : carryOut job plan e run = (.ok (.activated facts), run')) :
    ∃ run₁ run₂ run₃ state state', Activated job plan e run facts run' run₁ run₂ run₃ state
      state' := by
  unfold carryOut at h
  obtain ⟨_, _, noted, h⟩ := run_bind_eq_ok h
  cases noted
  obtain ⟨_, run₁, stage, h⟩ := run_bind_eq_ok h
  obtain ⟨failed, run₂, dispatch, h⟩ := run_bind_eq_ok h
  cases failed with
  | some result => cases h
  | none =>
    obtain ⟨_, run₃, activate, h⟩ := run_bind_eq_ok h
    obtain ⟨facts', run₄, commit, h⟩ := run_bind_eq_ok h
    cases h
    have staged := stageConfig_ensures job plan e (retained plan run)
    have dispatched := dispatchMigration_ensures job plan e run₁
    have activating := activateRuntime_ensures job plan e run₂
    have committed := confirmAndCommit_ensures job plan e run₃
    change stageConfig job plan e (retained plan run) = _ at stage
    rw [Ensures, stage] at staged
    rw [Ensures, dispatch] at dispatched
    rw [Ensures, activate] at activating
    rw [Ensures, commit] at committed
    rcases committed with ⟨unfinished, -⟩ | ⟨state, state', confirmed, before, after, rfl', rfl⟩
    · exact absurd rfl (unfinished _)
    · cases rfl'
      exact ⟨run₁, run₂, run₃, state, state', staged, dispatch, dispatched, activating, confirmed,
        before, after, rfl, rfl⟩

/-- A server whose answer completed the update unapplied never answers otherwise. -/
theorem neverApplied_of_unchanged {e₀ : Attempt} {run run' : Running}
    (dispatched : Dispatched job plan e₀ run (.ok none) run')
    (accepted : run.world.accepted = w₀.accepted)
    (unapplied : run'.performed.migrationResult.all fun result =>
      !migrationRequiresRecovery result) : NeverApplied e₀ job w₀ := by
  intro ordered result held succeeded
  cases dispatched with
  | notOrdered absent => simp [absent] at ordered
  | unreached _ unfinished => exact absurd rfl (unfinished none)
  | unknown _ unfinished => exact absurd rfl (unfinished none)
  | unchanged result₀ _ decides decided outcome answered revertible =>
    have := recorded_again decided job.operationId run.world
    rw [show _ = some result₀ from answered, accepted, held] at this
    cases this
    exact revertible
  | applied _ w' result₀ =>
    simp only [Option.all_some, Bool.not_eq_true'] at unapplied
    simp_all

/-! ## The resumed phases -/

section resumed

variable {run₀ run run₀' run' : Running} {plan' : UpdatePlan}

/-- A resumed staging ends with the config and the snapshots of the uninterrupted one. -/
theorem Staged.resumes (left : StagingLeft platform (updateStaging job plan) run₀.world run.world)
    (noConfig : run₀.world.config = none → run.world.config = none)
    (sameSource : plan'.currentConfig = plan.currentConfig)
    (staged : Staged platform job plan run₀ (.ok ()) run₀')
    (steps : run₀.performed.snapshottedConfig = run.performed.snapshottedConfig) :
    ∃ run', Staged platform job plan' run (.ok ()) run' ∧
      run'.world = { run.world with
        config := if job.config.isSome then run₀'.world.config else run.world.config
        configSnapshots := run₀'.world.configSnapshots } ∧
      run'.performed.snapshottedConfig = run₀'.performed.snapshottedConfig := by
  have same := left.isSome noConfig
  cases staged with
  | unsaved unfinished => exact absurd rfl unfinished
  | unwritten w₁ saved finished =>
    have unstaged : job.config = none := finished.mp rfl
    have saved' : Saved platform job plan' run.world
        { run.world with configSnapshots := w₁.configSnapshots } := by
      rw [Saved, sameSource]
      exact left.resumes noConfig saved
    exact ⟨_, .unwritten (.ok ()) _ saved' (by simp [unstaged]),
      by simp [unstaged], by simp [savedSteps, same, steps]⟩
  | written w₁ staged saved present =>
    have saved' : Saved platform job plan' run.world
        { run.world with configSnapshots := w₁.configSnapshots } := by
      rw [Saved, sameSource]
      exact left.resumes noConfig saved
    exact ⟨_, .written (.ok ()) _ staged saved' present,
      by simp [present], by simp [savedSteps, same, steps]⟩

theorem Dispatched.steps {e : Attempt} {o : Outcome Failure (Option ControlResult)}
    (h : Dispatched job plan e run o run') :
    run'.performed.snapshottedConfig = run.performed.snapshottedConfig ∧
      run'.performed.wroteConfig = run.performed.wroteConfig ∧
      run'.performed.replacedRuntime = run.performed.replacedRuntime := by
  cases h <;> exact ⟨rfl, rfl, rfl⟩

/-- The object found by a resumed activation, once it is not running. -/
theorem writerStopped_resumed {object : RuntimeObject} (present : w.runtime = some object) :
    ∃ w₁, writerStopped object.running w w₁ ∧ w₁.runtime = some object.halted ∧
      w₁.hostArtifacts = w.hostArtifacts := by
  by_cases running : object.running = true
  · refine ⟨w.after (some object.halted) .stopped, ?_, rfl, rfl⟩
    rw [writerStopped, if_pos running]
    exact ⟨object, present, rfl⟩
  · refine ⟨w, by rw [writerStopped, if_neg running], ?_, rfl⟩
    rw [present, RuntimeObject.halted]
    cases object
    simp_all

/-- A resumed replacement ends with the runtime of the uninterrupted one. -/
theorem Replaced.resumes {kind : RuntimeBackendKind} {replacement : RuntimeReplacement}
    {w₁ w₂ : World} {source₀ source : RuntimeObject}
    (h : Replaced kind replacement w₁ (.ok ()) w₂) (present₀ : w₁.runtime = some source₀)
    (present : w.runtime = some source)
    (container : kind.isContainer → source.labels = source₀.labels ∧ source.running = false)
    (core : kind.isContainer = false → source.halted.withBinary 0 = source₀.halted.withBinary 0)
    (cached : ∀ path digest, replacement.artifact = .hostBinary path digest →
      digest ∈ w.hostArtifacts) :
    ∃ w', Replaced kind replacement w (.ok ()) w' ∧ w'.runtime = w₂.runtime := by
  cases h with
  | kept _ unfinished => exact absurd rfl unfinished
  | removed _ unfinished => exact absurd rfl unfinished
  | unitStopped _ unfinished => exact absurd rfl unfinished
  | created isContainer repository digest artifact free =>
    obtain ⟨labels, stopped⟩ := container isContainer
    have allowed : mayRemoveSource replacement source = .ok () := by
      obtain ⟨⟨owner, expected, owned⟩, -⟩ := mayRemoveSource_ok.mp (free source₀ present₀)
      rw [← labels] at owned
      exact mayRemoveSource_ok.mpr ⟨⟨owner, expected, owned⟩, stopped⟩
    have free' : ∀ object, w.runtime = some object →
        mayRemoveSource replacement object = .ok () := by
      intro object hobject
      rw [present] at hobject
      cases hobject
      exact allowed
    exact ⟨_, .created isContainer repository digest artifact free', rfl⟩
  | overwritten unit found hfound path digest artifact =>
    rw [present₀] at hfound
    cases hfound
    refine ⟨_, .overwritten unit source present path digest artifact (cached path digest artifact),
      ?_⟩
    have same := congrArg (·.withBinary digest) (core unit)
    simp only [withBinary_withBinary] at same
    change some (source.halted.withBinary digest) = some (source₀.halted.withBinary digest)
    rw [same]

/-- A resumed activation ends with the runtime of the uninterrupted one. -/
theorem Activating.resumes {object object' : RuntimeObject}
    (h : Activating job plan run₀ (.ok ()) run₀')
    (present₀ : run₀.world.runtime = some object) (present : run.world.runtime = some object')
    (labels : job.runtimeKind.isContainer → object'.labels = object.labels)
    (core : job.runtimeKind.isContainer = false →
      object'.halted.withBinary 0 = object.halted.withBinary 0)
    (cached : ∀ replacement path digest, plan.replacement = some replacement →
      replacement.artifact = .hostBinary path digest → digest ∈ run.world.hostArtifacts)
    (unneeded : plan.replacement = none → object' = object) :
    ∃ run', Activating job (UpdatePlan.resumed plan object'.running) run (.ok ()) run' ∧
      run'.world.runtime = run₀'.world.runtime ∧
      run'.performed.snapshottedConfig = run.performed.snapshottedConfig ∧
      run'.performed.migrationResult = run.performed.migrationResult := by
  cases h with
  | unstopped _ unfinished => exact absurd rfl unfinished
  | unreplaced _ unfinished => exact absurd rfl unfinished
  | unstarted _ unfinished => exact absurd rfl unfinished
  | notNeeded absent =>
    exact ⟨run, .notNeeded absent, by rw [present, present₀, unneeded absent], rfl, rfl⟩
  | activated replacement planned w₁ w₂ stopped replaced started running =>
    obtain ⟨w₁', stopped', source, artifacts⟩ := writerStopped_resumed present
    obtain ⟨source₀, hsource₀, sameLabels, sameHalted⟩ : ∃ source₀, w₁.runtime = some source₀ ∧
        source₀.labels = object.labels ∧ source₀.halted = object.halted := by
      unfold writerStopped at stopped
      split at stopped
      · obtain ⟨_, same, rfl⟩ := stopped
        rw [present₀] at same
        cases same
        exact ⟨_, rfl, rfl, rfl⟩
      · exact ⟨object, by rw [stopped, present₀], rfl, rfl⟩
    obtain ⟨w₂', replaced', runtime⟩ := Replaced.resumes replaced hsource₀ source
      (fun container => ⟨(labels container).trans sameLabels.symm, rfl⟩)
      (fun unit => by rw [sameHalted]; exact core unit)
      (fun path digest artifact => by
        rw [artifacts]
        exact cached replacement path digest planned artifact)
    have again := @Activating.activated job (UpdatePlan.resumed plan object'.running) run
      replacement planned w₁' w₂' stopped'
      replaced' started (runtime.trans running)
    exact ⟨_, again, rfl, rfl, rfl⟩

end resumed

/-! ## The resumed update -/

theorem retained_steps (plan : UpdatePlan) (run : Running) :
    (retained plan run).performed.snapshottedConfig = run.performed.snapshottedConfig ∧
      (retained plan run).performed.migrationResult = run.performed.migrationResult ∧
      (retained plan run).performed.migrationApplied = run.performed.migrationApplied := by
  unfold retained retainRuntime
  cases plan.before <;> exact ⟨rfl, rfl, rfl⟩

theorem Staged.steps {run run' : Running} {o : Outcome Failure Unit}
    (h : Staged platform job plan run o run') :
    run'.performed.migrationResult = run.performed.migrationResult ∧
      run'.performed.migrationApplied = run.performed.migrationApplied := by
  cases h <;> exact ⟨rfl, rfl⟩

theorem Activating.steps {run run' : Running} {o : Outcome Failure Unit}
    (h : Activating job plan run o run') :
    run'.performed.migrationResult = run.performed.migrationResult ∧
      run'.performed.snapshottedConfig = run.performed.snapshottedConfig := by
  cases h <;> exact ⟨rfl, rfl⟩

theorem Staged.unstaged {run run' : Running} (h : Staged platform job plan run (.ok ()) run')
    (unstaged : job.config = none) : run'.world.config = run.world.config := by
  cases h with
  | unsaved unfinished => exact absurd rfl unfinished
  | unwritten w₁ saved => rw [saved.world]
  | written w₁ staged saved present => simp [unstaged] at present

/-- Two attempts ended with the same document, config and runtime. -/
structure SameEnd (w w' : World) : Prop where
  state : w'.state = w.state
  config : w'.config = w.config
  runtime : w'.runtime = w.runtime

/-- A world that still shows what the first plan of an order was made from. -/
structure Resumable (platform : Platform) (kind : RuntimeBackendKind) (w₀ w : World) : Prop where
  reported : reported platform kind w = reported platform kind w₀
  noConfig : w₀.config = none → w.config = none

/-- From a resumable world a clean attempt completes as the uninterrupted one did. -/
theorem runUpdate_resumes {e₀ e : Attempt} {facts : LifecycleFacts} {run : Running}
    (clean : e.clean) (clean₀ : e₀.clean) (platform : e.platform = e₀.platform)
    (server : e.oneShot = e₀.oneShot) (unfenced : job.appliedMigrationOperationId = none)
    (admitted : admission e₀.platform job w₀ = .ok (some plan))
    (ran : carryOut job plan e₀
      ⟨keepArtifact plan.verified.runtimeArtifact w₀, freshSteps job⟩ = (.ok (.activated facts), run))
    (unapplied : NeverApplied e₀ job w₀) (left : Provisional e₀ job plan w₀ w)
    (resumable : Resumable e₀.platform job.runtimeKind w₀ w) :
    ∃ run', runUpdate job e ⟨w, freshSteps job⟩ = (.ok (.activated facts), run') ∧
      SameEnd run.world run'.world := by
  obtain ⟨run₁, run₂, run₃, state, state', phases⟩ := carryOut_activated ran
  obtain ⟨object, live, established⟩ := admission_some admitted
  obtain ⟨object', present', again⟩ := admission_resumed established.present resumable.reported
    left.unstaged left.secrets admitted
  have kept₀ := keepArtifact_kept plan.verified.runtimeArtifact w₀
  have kept := keepArtifact_kept plan.verified.runtimeArtifact w
  -- staging completes the snapshot of the uninterrupted attempt and writes the same config
  obtain ⟨snapshotted₀, result₀, applied₀⟩ :=
    retained_steps plan ⟨keepArtifact plan.verified.runtimeArtifact w₀, freshSteps job⟩
  obtain ⟨snapshotted, result, applied⟩ :=
    retained_steps (UpdatePlan.resumed plan object'.running)
      ⟨keepArtifact plan.verified.runtimeArtifact w, freshSteps job⟩
  obtain ⟨run₁', staged', world₁', snapshotted₁⟩ := @Staged.resumes _ _ _ _
    (retained (UpdatePlan.resumed plan object'.running)
      ⟨keepArtifact plan.verified.runtimeArtifact w, freshSteps job⟩) _
    (UpdatePlan.resumed plan object'.running)
    (left.staging.moved kept₀.config kept₀.snapshots kept.config kept.snapshots)
    (fun absent => kept.config.trans (resumable.noConfig (kept₀.config.symm.trans absent))) rfl
    phases.staged (snapshotted₀.trans snapshotted.symm)
  have steps₁ := Staged.steps phases.staged
  have steps₁' := Staged.steps staged'
  have world₁ := phases.staged.world
  have accepted₁ : run₁.world.accepted = w₀.accepted := by rw [world₁]; exact kept₀.accepted
  have secrets₁ : run₁.world.secrets = w₀.secrets := by rw [world₁]; exact kept₀.secrets
  have state₁ : run₁.world.state = w₀.state := by rw [world₁]; exact kept₀.state
  have runtime₁ : run₁.world.runtime = some object := by
    rw [world₁]
    exact kept₀.runtime.trans established.present
  have accepted₁' : run₁'.world.accepted = w.accepted := by rw [world₁']; exact kept.accepted
  have secrets₁' : run₁'.world.secrets = w.secrets := by rw [world₁']; exact kept.secrets
  have state₁' : run₁'.world.state = w.state := by rw [world₁']; exact kept.state
  have runtime₁' : run₁'.world.runtime = some object' := by
    rw [world₁']
    exact kept.runtime.trans present'
  -- the server answers as it did
  have fresh : (freshSteps job).migrationApplied = false := by simp [freshSteps, unfenced]
  obtain ⟨state₂, -, unapplied₂⟩ := Dispatched.provisional phases.dispatched rfl
    (by rw [accepted₁]) unapplied
  obtain ⟨run₂', dispatch', -, sameResult⟩ := @dispatchMigration_replays _ run₁' _
    (UpdatePlan.resumed plan object'.running) _ _ _ _ clean₀ clean platform server
    (secrets₁'.trans (left.secrets.trans secrets₁.symm))
    (by rw [accepted₁, accepted₁']; exact left.recorded)
    (steps₁.1.trans result₀) ⟨steps₁'.1.trans result, steps₁'.2.trans (applied.trans fresh)⟩
    phases.dispatch (unapplied₂ (steps₁.2.trans (applied₀.trans fresh)))
  have dispatched' : Dispatched job (UpdatePlan.resumed plan object'.running) e run₁' (.ok none)
      run₂' := by
    have := dispatchMigration_ensures job (UpdatePlan.resumed plan object'.running) e run₁'
    rwa [Ensures, dispatch'] at this
  obtain ⟨state₂', -, -⟩ := Dispatched.provisional dispatched' server
    (by rw [accepted₁']; exact left.recorded) unapplied
  -- the replacement ends in the same runtime
  have replaced := planReplacement_ok established.replacement
  obtain ⟨run₃', activating', runtime₃, snapshotted₃, result₃⟩ :=
    @Activating.resumes _ _ _ run₂' _ _ object' phases.activating
    (by rw [phases.dispatched.world]; exact runtime₁)
    (by rw [dispatched'.world]; exact runtime₁')
    (by
      intro container
      have labels := congrArg (·.map RuntimeObservation.labels) resumable.reported
      simpa [reported, established.present, present', observation, container] using labels)
    (by
      intro unit
      have core := left.core unit
      simpa [runtimeCore, established.present, present'] using core)
    (by
      intro replacement path digest planned artifact
      have cached : digest ∈ (keepArtifact plan.verified.runtimeArtifact w).hostArtifacts := by
        rcases replaced with ⟨-, h, -⟩ | ⟨-, h, -⟩
        · rw [h] at planned
          cases planned
        · rw [h] at planned
          cases planned
          rw [show plan.verified.runtimeArtifact = .hostBinary path digest from artifact]
          exact List.mem_cons_self
      rw [dispatched'.world, world₁']
      exact cached)
    (by
      intro absent
      have same := left.unneeded absent
      rw [present', established.present] at same
      exact Option.some.inj same)
  have steps₂ := Dispatched.steps phases.dispatched
  have steps₂' := Dispatched.steps dispatched'
  have steps₃ := Activating.steps phases.activating
  have config₃ : run₃'.world.config = run₃.world.config := by
    rw [activating'.world, phases.activating.world]
    change run₂'.world.config = run₂.world.config
    rw [dispatched'.world, phases.dispatched.world]
    change run₁'.world.config = run₁.world.config
    rw [world₁']
    change (if job.config.isSome then run₁.world.config
      else (keepArtifact plan.verified.runtimeArtifact w).config) = _
    split
    · rfl
    · rename_i unstaged
      have unstaged : job.config = none := by simpa using unstaged
      rw [kept.config, left.unstaged unstaged, Staged.unstaged phases.staged unstaged]
      exact kept₀.config.symm
  have state₃ : run₃.world.state = w₀.state := by
    rw [phases.activating.world]
    exact state₂.trans state₁
  have state₃' : run₃'.world.state = run₃.world.state := by
    rw [state₃, activating'.world]
    exact state₂'.trans (state₁'.trans left.state)
  have confirmed' : Confirmed e.platform job.runtimeKind plan.verified.digest job.port job.issuer
      run₃'.world := by
    obtain ⟨object, config, present, hconfig, rest⟩ := phases.confirmed
    rw [platform]
    exact ⟨object, config, runtime₃.trans present, config₃.trans hconfig, rest⟩
  have committed : updateCommit job (UpdatePlan.resumed plan object'.running) run₃'.performed =
      updateCommit job plan run₃.performed := by
    have snapshotted : run₃'.performed.snapshottedConfig = run₃.performed.snapshottedConfig := by
      rw [snapshotted₃, steps₂'.1, snapshotted₁, steps₃.2, steps₂.1]
    simp only [updateCommit, snapshotted]
    rfl
  have carried := @carryOut_run _ ⟨keepArtifact plan.verified.runtimeArtifact w, freshSteps job⟩
    job (UpdatePlan.resumed plan object'.running) _ _ _ _ _ clean
    (by rw [platform]; exact staged') dispatch' activating' confirmed'
    (state₃'.trans phases.before) (by rw [committed]; exact phases.after)
  have resumed := (@runUpdate_admitted _ ⟨w, freshSteps job⟩ _ _ clean
    (by rw [platform]; exact again)).trans carried
  rw [result₃, sameResult, ← steps₃.1, ← phases.facts_eq] at resumed
  refine ⟨_, resumed, ?_⟩
  rw [phases.finished]
  exact ⟨rfl, config₃, runtime₃⟩

/-! ## Cut-off attempts of an update -/

/-- One attempt of the order whose run was cut off. -/
def UpdateCut (order : UpdateOrder) (e : Attempt) (w w' : World) : Prop :=
  ∃ state job run, w.state = some state ∧ updateJob order state = .ok job ∧
    runUpdate job e ⟨w, freshSteps job⟩ = (.crashed, run) ∧ w' = run.world

theorem UpdateCut.underJob {order : UpdateOrder} {e : Attempt} {state : DeploymentState}
    (h : UpdateCut order e w w') (loaded : w.state = some state)
    (built : updateJob order state = .ok job) :
    ∃ run, runUpdate job e ⟨w, freshSteps job⟩ = (.crashed, run) ∧ w' = run.world := by
  obtain ⟨state', job', run, loaded', built', cut, rfl⟩ := h
  rw [loaded] at loaded'
  cases loaded'
  rw [built] at built'
  cases built'
  exact ⟨run, cut, rfl⟩

/-- An order with nothing to do leaves nothing but kept artifacts when it is cut off. -/
theorem runUpdate_noop_cut {e : Attempt} {run : Running}
    (admitted : admission e.platform job w = .ok none)
    (cut : runUpdate job e ⟨w, freshSteps job⟩ = (.crashed, run)) : KeptArtifacts w run.world := by
  have ran : Ran job e ⟨w, freshSteps job⟩ .crashed run := by
    have := runUpdate_ensures job e ⟨w, freshSteps job⟩
    rwa [Ensures, cut] at this
  cases ran with
  | refused _ _ w₁ kept => exact kept
  | carried plan admitted' =>
    rw [admitted] at admitted'
    cases admitted'

/-- An update that was cut off any number of times, each time in a world that still
shows what was planned for, completes as if it had never been. -/
theorem update_resumed {order : UpdateOrder} {e₀ e : Attempt} {completion : CompletionBody}
    {state : DeploymentState} (clean₀ : e₀.clean) (clean : e.clean)
    (platform : e.platform = e₀.platform) (server : e.oneShot = e₀.oneShot)
    (loaded : w₀.state = some state) (unfenced : state.appliedMigration = none)
    (answered : (answerUpdate order e₀ w₀).1 = .ok completion) (completes : completion.completes)
    (reversible : ¬completion.irreversible)
    (cuts : Relation.ReflTransGen (fun w w' =>
      Resumable e₀.platform state.runtime.kind w₀ w ∧
        ∃ e, e.platform = e₀.platform ∧ e.oneShot = e₀.oneShot ∧ UpdateCut order e w w') w₀ w)
    (resumable : Resumable e₀.platform state.runtime.kind w₀ w)
    (precondition :
      validateBackupPrecondition order.backupPrecondition w.backup e.now = .ok ()) :
    (answerUpdate order e w).1 = .ok completion ∧
      SameEnd (answerUpdate order e₀ w₀).2 (answerUpdate order e w).2 := by
  obtain ⟨state', job, execution, run, completed⟩ := answerUpdate_completed answered completes
  obtain rfl : state = state' := Option.some.inj (loaded.symm.trans completed.loaded)
  obtain ⟨current, secrets, -, -, -, job_eq⟩ := updateJob_ok completed.built
  have kind : state.runtime.kind = job.runtimeKind := by rw [job_eq]; rfl
  have fresh : job.appliedMigrationOperationId = none := by rw [job_eq]; simp [orderedJob, unfenced]
  rw [completed.answered] at answered ⊢
  rw [kind] at cuts resumable
  cases hadmitted : admission e₀.platform job w₀ with
  | error x =>
    have ran := completed.ran
    have refused := admitUpdate_run (clean_admissionUnfaulted clean₀) job w₀
    rw [hadmitted] at refused
    unfold runUpdate at ran
    rw [run_bind_error (by rw [run_onWorld, refused]; rfl)] at ran
    cases ran
  | ok planned =>
    cases planned with
    | none =>
      have noop := @runUpdate_noop _ ⟨w₀, freshSteps job⟩ _ clean₀ hadmitted
      rw [completed.ran] at noop
      cases noop
      have kept : KeptArtifacts w₀ w := by
        clear resumable precondition
        induction cuts with
        | refl => exact KeptArtifacts.refl w₀
        | tail _ cut kept =>
          obtain ⟨-, e', platform', -, cut⟩ := cut
          obtain ⟨run, attempted, rfl⟩ := cut.underJob (kept.state.trans loaded) completed.built
          refine kept.trans (runUpdate_noop_cut ?_ attempted)
          rw [platform', admission_congr kept.runtime (fun _ => kept.config) kept.secrets]
          exact hadmitted
      have again : admission e.platform job w = .ok none := by
        rw [platform, admission_congr kept.runtime (fun _ => kept.config) kept.secrets]
        exact hadmitted
      have result := @answerUpdate_run _ _ _ _ order _ _ clean (kept.state.trans loaded)
        precondition completed.built completed.own
        (runUpdate_noop clean again) (by simp)
      rw [result]
      have ends := (admitUpdate_ensures job e w).1
      have ends₀ := (admitUpdate_ensures job e₀ w₀).1
      refine ⟨by rw [← answered], ?_, ?_, ?_⟩
      · exact (ends.state.trans kept.state).trans ends₀.state.symm
      · exact (ends.config.trans kept.config).trans ends₀.config.symm
      · exact (ends.runtime.trans kept.runtime).trans ends₀.runtime.symm
    | some plan =>
      have ran := @runUpdate_admitted _ ⟨w₀, freshSteps job⟩ _ _ clean₀ hadmitted
      rw [completed.ran] at ran
      cases execution with
      | noop revision =>
        have := carryOut_ensures job plan e₀
          ⟨keepArtifact plan.verified.runtimeArtifact w₀, freshSteps job⟩
        rw [Ensures, ← ran] at this
        cases this with
        | unstaged _ unfinished => exact absurd rfl (unfinished _)
        | undispatched _ unfinished => exact absurd rfl (unfinished _)
        | unactivated _ unfinished => exact absurd rfl (unfinished _)
        | uncommitted _ unfinished => exact absurd rfl (unfinished _)
      | migrationFailed result =>
        simp only [completionOfUpdate, Outcome.ok.injEq] at answered
        rw [← answered] at completes
        exact completes.elim
      | recoveryRequired result detail =>
        simp only [completionOfUpdate, Outcome.ok.injEq] at answered
        rw [← answered] at completes
        exact completes.elim
      | activated facts =>
        have unapplied : NeverApplied e₀ job w₀ := by
          obtain ⟨run₁, run₂, run₃, before, after, phases⟩ := carryOut_activated ran.symm
          refine neverApplied_of_unchanged phases.dispatched ?_ ?_
          · rw [phases.staged.world]
            exact (keepArtifact_kept _ _).accepted
          · have results := (Activating.steps phases.activating).1
            rw [← results]
            simp only [completionOfUpdate, Outcome.ok.injEq] at answered
            rw [← answered, phases.facts_eq] at reversible
            cases hresult : run₃.performed.migrationResult with
            | none => rfl
            | some result =>
              rw [hresult] at reversible
              simpa [CompletionBody.irreversible] using reversible
        have left : Provisional e₀ job plan w₀ w := by
          clear resumable precondition
          induction cuts with
          | refl => exact Provisional.refl e₀ job plan w₀
          | tail _ cut left =>
            obtain ⟨resumable', e', platform', server', cut⟩ := cut
            obtain ⟨run, attempted, rfl⟩ := cut.underJob (left.state.trans loaded) completed.built
            exact left.step hadmitted unapplied resumable'.reported resumable'.noConfig platform'
              server' attempted
        obtain ⟨run', again, ends⟩ := runUpdate_resumes clean clean₀ platform server fresh hadmitted
          ran.symm unapplied left resumable
        have result := @answerUpdate_run _ _ _ _ order _ _ clean (left.state.trans loaded)
          precondition completed.built completed.own again (by simp)
        rw [result]
        exact ⟨by rw [← answered], ends⟩

end NazoAuthCtl.UpdateResume
