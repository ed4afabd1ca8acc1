import NazoAuthCtl.UpdateResume

/-!
# What the undo of an update does

`rollback_update` works from the steps one attempt has performed and from the
world as the attempt left it. The config comes back from the operation's snapshot,
a container from the replacement kept in memory, and a unit from the locally kept
executable of the recorded current artifact.
-/

set_option autoImplicit false
set_option linter.all false

namespace NazoAuthCtl.UpdateUndo

open FaultProgram TargetState TargetWorld UpdateExec UpdateAdmission UpdateSteps UpdateResume
open Program

variable {job : UpdateJob} {performed : PerformedSteps} {e : Attempt} {w w' : World}

/-- What the config half of the undo can leave. -/
inductive ConfigUndone (job : UpdateJob) (performed : PerformedSteps) (w : World) :
    Outcome Failure Unit → World → Prop
  | untouched (unwritten : performed.wroteConfig = false) :
      ConfigUndone job performed w (.ok ()) w
  | kept (o : Outcome Failure Unit) (unfinished : o ≠ .ok ()) : ConfigUndone job performed w o w
  | restored (o : Outcome Failure Unit) (wrote : performed.wroteConfig = true)
      (snapshotted : performed.snapshottedConfig = true) (bytes : Bytes)
      (saved : (w.configSnapshots job.operationId).bytes = some bytes)
      (recorded : (w.configSnapshots job.operationId).record.isSome) :
      ConfigUndone job performed w o { w with config := some bytes }
  | removed (wrote : performed.wroteConfig = true)
      (unsaved : performed.snapshottedConfig = false) :
      ConfigUndone job performed w (.ok ()) { w with config := none }

theorem restoreConfig_ensures (job : UpdateJob) (performed : PerformedSteps) (e : Attempt)
    (w : World) :
    Ensures (restoreConfig job performed) e (ConfigUndone job performed w) w := by
  unfold restoreConfig
  cases wrote : performed.wroteConfig with
  | false => exact .untouched wrote
  | true =>
    rw [if_pos rfl]
    cases snapshotted : performed.snapshottedConfig with
    | false =>
      simp only [Bool.false_eq_true, if_false, ensures_perform, ensures_modify]
      exact ⟨fun _ => .removed wrote snapshotted, fun _ _ => .kept _ (by simp),
        fun _ => .kept _ (by simp)⟩
    | true =>
      rw [if_pos rfl]
      unfold restoreSnapshotBytes readRestorableSnapshot
      simp only [ensures_bind, ensures_perform, ensures_environment, ensures_get, after_ok,
        after_error, after_crashed]
      refine ⟨fun _ => ?_, fun _ _ => .kept _ (by simp), fun _ => .kept _ (by simp)⟩
      rcases hs : w.configSnapshots job.operationId with ⟨bytes, record⟩
      cases record with
      | none => exact .kept _ (by simp)
      | some record =>
        cases bytes with
        | none => exact .kept _ (by simp)
        | some bytes =>
          simp only [ensures_bind, ensures_require, after_ok, after_error, ensures_pure,
            writeConfig, grantRuntimeConfigRead, ensures_perform, ensures_modify, after_crashed]
          have restored : ∀ o, ConfigUndone job performed w o { w with config := some bytes } :=
            fun o => .restored o wrote snapshotted bytes (by rw [hs]) (by rw [hs]; rfl)
          exact ⟨fun _ => ⟨fun _ => ⟨fun _ => ⟨fun _ => ⟨fun _ => restored _, fun _ _ => restored _,
            fun _ => restored _⟩, fun _ _ => .kept _ (by simp), fun _ => .kept _ (by simp)⟩,
            fun _ => .kept _ (by simp)⟩, fun _ => .kept _ (by simp)⟩, fun _ => .kept _ (by simp)⟩

/-! ## The runtime half -/

/-- Only the runtime and its history differ. -/
def RuntimeOnly (w w' : World) : Prop :=
  w' = { w with runtime := w'.runtime, history := w'.history }

theorem RuntimeOnly.refl (w : World) : RuntimeOnly w w := rfl

theorem RuntimeOnly.trans (w₁ w₂ w₃ : World) (h : RuntimeOnly w₁ w₂) (h' : RuntimeOnly w₂ w₃) :
    RuntimeOnly w₁ w₃ := by
  rw [RuntimeOnly, h', h]

theorem keeps_changeRuntime (label : Effect) (change : RuntimeObject → RuntimeObject)
    (event : RuntimeObject → RuntimeEvent) : Keeps (changeRuntime label change event) RuntimeOnly := by
  intro e w
  rcases changeRuntime_cases label change event e w with ⟨object, -, h⟩ | ⟨x, h⟩ | h
  · rw [h]
    rfl
  · rw [h]
    exact RuntimeOnly.refl w
  · rw [h]
    exact RuntimeOnly.refl w

theorem keeps_inspect (kind : RuntimeBackendKind) (site : Site) :
    Keeps (inspect kind site) RuntimeOnly := by
  refine keeps_effect RuntimeOnly.refl _ _ (keeps_bind RuntimeOnly.trans
    (keeps_environment RuntimeOnly.refl) fun attempt => keeps_bind RuntimeOnly.trans
    (keeps_get RuntimeOnly.refl) fun w => ?_)
  cases w.runtime with
  | none => exact keeps_throw RuntimeOnly.refl _
  | some object => exact keeps_pure RuntimeOnly.refl _

theorem keeps_replace (kind : RuntimeBackendKind) (site : Site) (replacement : RuntimeReplacement) :
    Keeps (replace kind site replacement) RuntimeOnly :=
  fun e w => (replace_ensures kind site replacement e w).world

theorem keeps_restoreRuntime (kind : RuntimeBackendKind) (artifact : Digest)
    (runtimeRoot : Option Path) (performed : PerformedSteps) :
    Keeps (restoreRuntimeBeforeChange kind artifact runtimeRoot performed) RuntimeOnly := by
  unfold restoreRuntimeBeforeChange
  split
  · refine keeps_bind RuntimeOnly.trans (keeps_inspect _ _) fun observed => ?_
    cases runtimeRoot with
    | none => exact keeps_throw RuntimeOnly.refl _
    | some root =>
      exact keeps_bind RuntimeOnly.trans (keeps_ofExcept RuntimeOnly.refl _) fun replacement =>
        keeps_bind RuntimeOnly.trans (keeps_replace _ _ _) fun _ => keeps_changeRuntime _ _ _
  · split
    · exact keeps_throw RuntimeOnly.refl _
    · refine keeps_bind RuntimeOnly.trans (keeps_replace _ _ _) fun _ => ?_
      split
      · exact keeps_changeRuntime _ _ _
      · exact keeps_changeRuntime _ _ _

theorem changeRuntime_ok {label : Effect} {change : RuntimeObject → RuntimeObject}
    {event : RuntimeObject → RuntimeEvent}
    (h : changeRuntime label change event e w = (.ok (), w')) :
    ∃ object, w.runtime = some object ∧ w'.runtime = some (change object) := by
  have := changeRuntime_ensures label change event e w
  rw [Ensures, h] at this
  rcases this with ⟨unfinished, -⟩ | ⟨object, present, -, rfl⟩
  · exact absurd rfl unfinished
  · exact ⟨object, present, rfl⟩

/-- A restored container is the one kept in memory, and what stood in its place was
not running. -/
theorem restoreRuntime_container {kind : RuntimeBackendKind} {artifact : Digest}
    {runtimeRoot : Option Path} (container : kind.isContainer)
    (h : restoreRuntimeBeforeChange kind artifact runtimeRoot performed e w = (.ok (), w')) :
    ∃ replacement, performed.runtimeBeforeChange = some replacement ∧
      w'.runtime = some (if performed.runtimeBeforeChangeWasRunning
        then (createdObject replacement).launched else (createdObject replacement).halted) ∧
      ∀ object, w.runtime = some object → object.running = false := by
  unfold restoreRuntimeBeforeChange at h
  rw [if_neg (by rintro rfl; cases container)] at h
  cases before : performed.runtimeBeforeChange with
  | none =>
    rw [before] at h
    cases h
  | some replacement =>
    rw [before] at h
    obtain ⟨_, w₁, replaced, settled⟩ := run_bind_eq_ok h
    have replaced : Replaced kind replacement w (.ok ()) w₁ := by
      have := replace_ensures kind .undo replacement e w
      rwa [Ensures, replaced] at this
    refine ⟨replacement, rfl, ?_⟩
    cases replaced with
    | kept _ unfinished => exact absurd rfl unfinished
    | removed _ unfinished => exact absurd rfl unfinished
    | unitStopped _ unfinished => exact absurd rfl unfinished
    | overwritten unit => simp [container] at unit
    | created _ repository digest _ free =>
      refine ⟨?_, ?_⟩
      · split at settled
        · rename_i running
          obtain ⟨object, present, started⟩ := changeRuntime_ok settled
          cases present
          rw [started, if_pos running]
        · rename_i idle
          obtain ⟨object, present, stopped⟩ := changeRuntime_ok settled
          cases present
          rw [stopped, if_neg idle]
      · exact fun object present => (mayRemoveSource_ok.mp (free object present)).2

/-- A successful inspection leaves the world alone. -/
theorem inspect_ok {kind : RuntimeBackendKind} {site : Site} {observed : RuntimeObservation}
    (h : inspect kind site e w = (.ok observed, w')) : w' = w := by
  unfold inspect at h
  cases fault : e.faults (.inspect site) with
  | fail d =>
    rw [perform_fail _ _ _ fault] at h
    cases h
  | crash =>
    rw [perform_crash _ _ _ fault] at h
    cases h
  | none =>
    rw [perform_none _ _ _ fault, run_bind_ok run_environment, run_bind_ok run_get] at h
    cases hr : w.runtime with
    | none =>
      rw [hr] at h
      cases h
    | some object =>
      rw [hr] at h
      cases h
      rfl

/-- A restored unit runs the recorded current executable, whether it ran before or not. -/
theorem restoreRuntime_unit {artifact : Digest} {runtimeRoot : Option Path}
    (h : restoreRuntimeBeforeChange .host artifact runtimeRoot performed e w = (.ok (), w')) :
    ∃ object, w.runtime = some object ∧
      w'.runtime = some (object.halted.withBinary artifact).launched := by
  unfold restoreRuntimeBeforeChange redeployDigest at h
  rw [if_pos rfl] at h
  obtain ⟨observed, w₁, inspected, h⟩ := run_bind_eq_ok h
  have unchanged := inspect_ok inspected
  cases runtimeRoot with
  | none => cases h
  | some root =>
    obtain ⟨replacement, w₂, planned, h⟩ := run_bind_eq_ok h
    rw [run_ofExcept] at planned
    obtain ⟨answer, rfl⟩ := Prod.mk.inj planned
    have surface : replacement = surfaceWith observed (.hostBinary (artifactPath root artifact)
        artifact) := by
      cases hr : replacementFromObservation observed
          (.hostBinary (artifactPath root artifact) artifact) with
      | error x => rw [hr] at answer; cases answer
      | ok made =>
        rw [hr] at answer
        cases answer
        exact replacementFromObservation_ok hr
    obtain ⟨_, w₃, replaced, started⟩ := run_bind_eq_ok h
    have replaced : Replaced .host replacement w₁ (.ok ()) w₃ := by
      have := replace_ensures .host .undo replacement e w₁
      rwa [Ensures, replaced] at this
    obtain ⟨object, present, launched⟩ := changeRuntime_ok started
    cases replaced with
    | kept _ unfinished => exact absurd rfl unfinished
    | removed _ unfinished => exact absurd rfl unfinished
    | unitStopped _ unfinished => exact absurd rfl unfinished
    | created container => cases container
    | overwritten unit found hfound path digest same =>
      cases present
      rw [surface] at same
      cases same
      exact ⟨found, by rw [← unchanged, hfound], launched⟩

/-! ## Both halves -/

/-- A completed undo is the completed undo of both halves. -/
theorem rollbackUpdate_ok (h : rollbackUpdate job performed e w = (.ok (), w')) :
    ∃ w₁, ConfigUndone job performed w (.ok ()) w₁ ∧
      (performed.replacedRuntime = true →
        restoreRuntimeBeforeChange job.runtimeKind job.currentArtifact job.runtimeRoot performed e
          w₁ = (.ok (), w')) ∧
      (performed.replacedRuntime = false → w' = w₁) := by
  unfold rollbackUpdate at h
  obtain ⟨config, w₁, hconfig, h⟩ := run_bind_eq_ok h
  obtain ⟨runtime, w₂, hruntime, h⟩ := run_bind_eq_ok h
  rw [run_ofExcept] at h
  obtain ⟨answer, rfl⟩ := Prod.mk.inj h
  have both : config = .ok () ∧ runtime = .ok () := by
    cases config <;> cases runtime <;> simp_all [rollbackResult]
  obtain ⟨rfl, rfl⟩ := both
  have undone := restoreConfig_ensures job performed e w
  rw [run_attempt] at hconfig hruntime
  rcases hc : restoreConfig job performed e w with ⟨_ | _ | _, w₃⟩ <;> rw [hc] at hconfig <;>
    cases hconfig
  rw [Ensures, hc] at undone
  refine ⟨w₁, undone, ?_, ?_⟩
  · intro replaced
    rw [if_pos replaced] at hruntime
    rcases hr : restoreRuntimeBeforeChange job.runtimeKind job.currentArtifact job.runtimeRoot
      performed e w₁ with ⟨_ | _ | _, w₄⟩ <;> rw [hr] at hruntime <;> cases hruntime
    rfl
  · intro kept
    rw [if_neg (by simp [kept])] at hruntime
    cases hruntime
    rfl

/-- However it ends, the undo leaves the document and the snapshots, and puts nothing
but the snapshot in place of the config. -/
theorem rollbackUpdate_ensures (job : UpdateJob) (performed : PerformedSteps) (e : Attempt)
    (w : World) :
    Ensures (rollbackUpdate job performed) e (fun _ w' => ∃ o w₁,
      ConfigUndone job performed w o w₁ ∧ RuntimeOnly w₁ w') w := by
  unfold rollbackUpdate
  rw [ensures_bind, ensures_attempt]
  apply (restoreConfig_ensures job performed e w).mono
  intro o w₁ undone
  have rest : ∀ config, Ensures (do
      let runtime ← attempt (if performed.replacedRuntime then
          restoreRuntimeBeforeChange job.runtimeKind job.currentArtifact job.runtimeRoot performed
        else Pure.pure ())
      ofExcept (rollbackResult [config, runtime])) e (fun _ w' => ∃ o w₁,
      ConfigUndone job performed w o w₁ ∧ RuntimeOnly w₁ w') w₁ := by
    intro config
    refine ⟨o, w₁, undone, ?_⟩
    refine keeps_bind RuntimeOnly.trans (keeps_attempt ?_)
      (fun _ => keeps_ofExcept RuntimeOnly.refl _) e w₁
    split
    · exact keeps_restoreRuntime _ _ _ _
    · exact keeps_pure RuntimeOnly.refl _
  cases o with
  | ok _ => exact rest _
  | error x => exact rest _
  | crashed => exact ⟨_, w₁, undone, RuntimeOnly.refl w₁⟩

end NazoAuthCtl.UpdateUndo
