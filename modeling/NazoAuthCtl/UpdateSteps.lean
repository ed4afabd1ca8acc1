import NazoAuthCtl.UpdateAdmission

/-!
# What each phase of an update can do

One inductive relation for each phase of `run_update` lists the outcomes it can
have in any environment and the world and the performed steps it leaves then.
Everything proved about attempts of an update is derived from these lists.
-/

set_option autoImplicit false
set_option linter.all false

namespace NazoAuthCtl.UpdateSteps

open FaultProgram TargetState TargetWorld UpdateExec UpdateAdmission
open Program

def completeSnapshot (platform : Platform) (operation : OperationId) (schema : ConfigSchema)
    (replacing : Option ConfigSchema) (bytes : Bytes) : ConfigSnapshot where
  bytes := some bytes
  record := some {
    schema := snapshotMetaSchema
    operationId := operation
    contentSha256 := platform.sha256 bytes
    configSchema := schema
    replacedBySchema := replacing }

/-- What `snapshot_config` can leave: an earlier snapshot it accepts or refuses,
the bytes file alone, or both files. -/
inductive Snapshotted (platform : Platform) (operation : OperationId) (schema : ConfigSchema)
    (replacing : Option ConfigSchema) (current : Option Bytes) (w : World) :
    Outcome Failure Unit → World → Prop
  | refused (failure : Failure) :
      Snapshotted platform operation schema replacing current w (.error failure) w
  | lost : Snapshotted platform operation schema replacing current w .crashed w
  | resumed (record : ConfigSnapshotMeta) (bytes : Bytes)
      (present : w.configSnapshots operation = ⟨some bytes, some record⟩)
      (obsolete : record.schema = snapshotMetaSchema)
      (owner : record.operationId = operation)
      (digest : platform.sha256 bytes = record.contentSha256)
      (schemas : record.configSchema = schema ∧ record.replacedBySchema = replacing) :
      Snapshotted platform operation schema replacing current w (.ok ()) w
  | bytesOnly (o : Outcome Failure Unit) (unfinished : o ≠ .ok ()) (bytes : Bytes)
      (source : current.or w.config = some bytes)
      (absent : (w.configSnapshots operation).record = none) :
      Snapshotted platform operation schema replacing current w o
        (setSnapshot w operation ⟨some bytes, none⟩)
  | saved (bytes : Bytes) (source : current.or w.config = some bytes)
      (absent : (w.configSnapshots operation).record = none) :
      Snapshotted platform operation schema replacing current w (.ok ())
        (setSnapshot w operation (completeSnapshot platform operation schema replacing bytes))

theorem snapshotConfig_ensures (operation : OperationId) (schema : ConfigSchema)
    (replacing : Option ConfigSchema) (current : Option Bytes) (e : Attempt) (w : World) :
    Ensures (snapshotConfig operation schema replacing current) e
      (Snapshotted e.platform operation schema replacing current w) w := by
  unfold snapshotConfig
  simp only [ensures_bind, ensures_perform, ensures_environment, after_ok, after_error,
    after_crashed, ensures_get, ensures_pure]
  refine ⟨fun _ => ?_, fun _ _ => .refused _, fun _ => .lost⟩
  rcases hs : w.configSnapshots operation with ⟨saved, record⟩
  cases record with
  | some record =>
    simp only [ensures_bind, ensures_require, after_ok, after_error]
    refine ⟨fun obsolete => ⟨fun owner => ⟨fun matched => ?_, fun _ => .refused _⟩,
      fun _ => .refused _⟩, fun _ => .refused _⟩
    cases saved with
    | none => simp [resumedSnapshotMatches] at matched
    | some bytes =>
      simp only [resumedSnapshotMatches, Option.any_some, Bool.and_eq_true, decide_eq_true_eq]
        at matched
      exact .resumed record bytes hs obsolete owner matched.1.1 ⟨matched.1.2, matched.2⟩
  | none =>
    have absent : (w.configSnapshots operation).record = none := by rw [hs]
    simp only [ensures_bind, ensures_perform, ensures_get, after_ok, after_error, after_crashed]
    refine ⟨fun _ => ?_, fun _ _ => .refused _, fun _ => .lost⟩
    cases source : current.or w.config with
    | none => simpa using Snapshotted.refused _
    | some bytes =>
      simp only [ensures_bind, ensures_modify, after_ok, ensures_pure, ensures_perform, hs]
      refine ⟨fun _ => ?_, fun _ _ => .bytesOnly _ (by simp) bytes source absent,
        fun _ => .bytesOnly _ (by simp) bytes source absent⟩
      have := @Snapshotted.saved e.platform operation schema replacing current w bytes source
        absent
      simpa [completeSnapshot, setSnapshot] using this
/-- The old config is saved, when there is one. -/
def Saved (platform : Platform) (job : UpdateJob) (plan : UpdatePlan) (w w₁ : World) : Prop :=
  w.config.isSome ∧ Snapshotted platform job.operationId job.configSchema
      (job.config.map (·.schema)) plan.currentConfig w (.ok ()) w₁ ∨
    w.config = none ∧ w₁ = w

def savedSteps (run : Running) : PerformedSteps :=
  { run.performed with
    snapshottedConfig := run.world.config.isSome || run.performed.snapshottedConfig }

inductive Staged (platform : Platform) (job : UpdateJob) (plan : UpdatePlan) (run : Running) :
    Outcome Failure Unit → Running → Prop
  | unsaved (o : Outcome Failure Unit) (unfinished : o ≠ .ok ()) (w₁ : World)
      (present : run.world.config.isSome)
      (snapshot : Snapshotted platform job.operationId job.configSchema
        (job.config.map (·.schema)) plan.currentConfig run.world o w₁) :
      Staged platform job plan run o { run with world := w₁ }
  | unwritten (o : Outcome Failure Unit) (w₁ : World)
      (saved : Saved platform job plan run.world w₁)
      (finished : o = .ok () ↔ job.config = none) :
      Staged platform job plan run o ⟨w₁, savedSteps run⟩
  | written (o : Outcome Failure Unit) (w₁ : World) (staged : StagedConfig)
      (saved : Saved platform job plan run.world w₁) (present : job.config = some staged) :
      Staged platform job plan run o
        ⟨{ w₁ with config := some staged.content },
          { savedSteps run with wroteConfig := true }⟩

theorem writeStagedConfig_ensures {platform : Platform} {job : UpdateJob} {plan : UpdatePlan}
    {e : Attempt} {run run₁ : Running}
    (saved : Saved platform job plan run.world run₁.world)
    (steps : run₁.performed = savedSteps run) :
    Ensures (writeStagedConfig job) e (Staged platform job plan run) run₁ := by
  rcases run₁ with ⟨w₁, performed⟩
  subst steps
  unfold writeStagedConfig
  cases hc : job.config with
  | none => exact .unwritten _ w₁ saved (by simp [hc])
  | some staged =>
    simp only [ensures_bind, ensures_onWorld, ensures_note, writeConfig, grantRuntimeConfigRead,
      ensures_perform, ensures_modify, ensures_pure, after_ok, after_error, after_crashed]
    exact ⟨fun _ => ⟨fun _ => .written _ w₁ staged saved hc, fun _ _ => .written _ w₁ staged saved hc,
      fun _ => .written _ w₁ staged saved hc⟩,
      fun _ _ => .unwritten _ w₁ saved (by simp [hc]),
      fun _ => .unwritten _ w₁ saved (by simp [hc])⟩

theorem stageConfig_ensures (job : UpdateJob) (plan : UpdatePlan) (e : Attempt) (run : Running) :
    Ensures (stageConfig job plan) e (Staged e.platform job plan run) run := by
  unfold stageConfig saveCurrentConfig
  simp only [ensures_bind, ensures_get, after_ok, ensures_onlyIf, ensures_onWorld]
  refine ⟨fun present => ?_, fun absent => ?_⟩
  · apply (snapshotConfig_ensures _ _ _ _ e run.world).mono
    intro o w₁ snapshot
    cases o with
    | ok _ =>
      simp only [after_ok, ensures_note]
      exact writeStagedConfig_ensures (.inl ⟨present, snapshot⟩) (by simp [savedSteps, present])
    | error x => exact .unsaved _ (by simp) w₁ present snapshot
    | crashed => exact .unsaved _ (by simp) w₁ present snapshot
  · have absent : run.world.config = none := by simpa using absent
    exact writeStagedConfig_ensures (.inr ⟨absent, rfl⟩) (by simp [savedSteps, absent])

theorem Snapshotted.world {platform : Platform} {operation : OperationId} {schema : ConfigSchema}
    {replacing : Option ConfigSchema} {current : Option Bytes} {w w' : World}
    {o : Outcome Failure Unit}
    (h : Snapshotted platform operation schema replacing current w o w') :
    w' = { w with configSnapshots := w'.configSnapshots } := by
  cases h <;> rfl

theorem Saved.world {platform : Platform} {job : UpdateJob} {plan : UpdatePlan} {w w₁ : World}
    (h : Saved platform job plan w w₁) :
    w₁ = { w with configSnapshots := w₁.configSnapshots } := by
  rcases h with ⟨-, snapshot⟩ | ⟨-, rfl⟩
  · exact snapshot.world
  · rfl

/-- Staging touches the config and its snapshots, and no other part of the world. -/
theorem Staged.world {platform : Platform} {job : UpdateJob} {plan : UpdatePlan}
    {run run' : Running} {o : Outcome Failure Unit} (h : Staged platform job plan run o run') :
    run'.world = { run.world with
      config := run'.world.config, configSnapshots := run'.world.configSnapshots } := by
  cases h with
  | unsaved unfinished w₁ present snapshot =>
    have same := snapshot.world
    rw [same]
  | unwritten w₁ saved finished =>
    have same := saved.world
    rw [same]
  | written w₁ staged saved present =>
    have same := saved.world
    rw [same]

/-! ## The migration -/

def recordAccepted (operation : OperationId) (decides : Option ControlResult) (w : World) : World :=
  { w with accepted :=
      Function.update w.accepted operation ((w.accepted operation).or decides) }

/-- A terminal answer is the one the server holds for the operation. -/
def Answered (job : UpdateJob) (w : World) (result : ControlResult) : Prop :=
  w.accepted job.operationId = some result

/-- What a task left with the server: nothing, or its decision. -/
def Decided (e : Attempt) (decides : Option ControlResult) : Prop :=
  decides = none ∨ decides = e.oneShot.decides

inductive Dispatched (job : UpdateJob) (plan : UpdatePlan) (e : Attempt) (run : Running) :
    Outcome Failure (Option ControlResult) → Running → Prop
  | notOrdered (absent : job.migrationJws = none) :
      Dispatched job plan e run (.ok none) run
  | unreached (o : Outcome Failure (Option ControlResult)) (unfinished : ∀ r, o ≠ .ok r)
      (ordered : job.migrationJws.isSome) :
      Dispatched job plan e run o run
  | unknown (o : Outcome Failure (Option ControlResult)) (unfinished : ∀ r, o ≠ .ok r)
      (ordered : job.migrationJws.isSome) (decides : Option ControlResult)
      (decided : Decided e decides) :
      Dispatched job plan e run o
        ⟨recordAccepted job.operationId decides run.world,
          { run.performed with migrationOutcomeUnknown := true }⟩
  | rejected (code : FailureCode) (detail : String) (proves : provesRejection code)
      (ordered : job.migrationJws.isSome) :
      Dispatched job plan e run (.error ⟨code, detail⟩)
        { run with performed := { run.performed with migrationOutcomeUnknown := false } }
  | failed (result : ControlResult) (ordered : job.migrationJws.isSome)
      (decides : Option ControlResult) (decided : Decided e decides)
      (outcome : result.outcome = .failed)
      (answered : Answered job (recordAccepted job.operationId decides run.world) result) :
      Dispatched job plan e run (.ok (some result))
        ⟨recordAccepted job.operationId decides run.world,
          { run.performed with migrationOutcomeUnknown := false }⟩
  | unchanged (result : ControlResult) (ordered : job.migrationJws.isSome)
      (decides : Option ControlResult) (decided : Decided e decides)
      (outcome : result.outcome = .succeeded)
      (answered : Answered job (recordAccepted job.operationId decides run.world) result)
      (revertible : migrationRequiresRecovery result = false) :
      Dispatched job plan e run (.ok none)
        ⟨recordAccepted job.operationId decides run.world,
          { run.performed with
            migrationApplied := false
            migrationResult := some result
            migrationOutcomeUnknown := false }⟩
  | applied (o : Outcome Failure (Option ControlResult)) (w' : World) (result : ControlResult)
      (ordered : job.migrationJws.isSome)
      (decides : Option ControlResult) (decided : Decided e decides)
      (outcome : result.outcome = .succeeded)
      (answered : Answered job (recordAccepted job.operationId decides run.world) result)
      (irreversible : migrationRequiresRecovery result = true)
      (fence : (∀ r, o ≠ .ok r) ∧ w' = recordAccepted job.operationId decides run.world ∨
        o = .ok none ∧ ∃ state state', run.world.state = some state ∧
          recordMigrationApplied state job.expectedRevision job.operationId
            plan.verified.digest = .ok state' ∧
          w' = { recordAccepted job.operationId decides run.world with state := some state' })
      (refusal : e.faults .recordMigration = .none → ∀ state, run.world.state = some state →
        ∀ state', recordMigrationApplied state job.expectedRevision job.operationId
          plan.verified.digest = .ok state' → o = .ok none) :
      Dispatched job plan e run o
        ⟨w', { run.performed with
          migrationApplied := true
          migrationResult := some result
          migrationOutcomeUnknown := false }⟩

theorem storeState_ensures (label : Effect)
    (operation : DeploymentState → Except Failure DeploymentState) (e : Attempt) (w : World) :
    Ensures (storeState label operation) e (fun o w' =>
      (((∀ r, o ≠ .ok r) ∧ w' = w) ∨
        ∃ state state', w.state = some state ∧ operation state = .ok state' ∧
          w' = { w with state := some state' } ∧ o = .ok state') ∧
      (e.faults label = .none → ∀ state state', w.state = some state →
        operation state = .ok state' → o = .ok state')) w := by
  unfold storeState
  simp only [ensures_perform, ensures_bind, ensures_get, after_ok]
  refine ⟨fun fault => ?_, fun d fault => ⟨.inl (by simp), by simp [fault]⟩,
    fun fault => ⟨.inl (by simp), by simp [fault]⟩⟩
  cases hs : w.state with
  | none => exact ⟨.inl (by simp), by simp⟩
  | some state =>
    simp only [ensures_bind, ensures_ofExcept, after_ok, after_error, ensures_modify, ensures_pure]
    refine ⟨fun state' hop => ⟨.inr ⟨state, state', rfl, hop, rfl, rfl⟩, ?_⟩,
      fun x hop => ⟨.inl (by simp), ?_⟩⟩
    · rintro - _ _ ⟨⟩ h
      rw [hop] at h
      cases h
      rfl
    · rintro - _ _ ⟨⟩ h
      rw [hop] at h
      cases h

theorem recordAccepted_none (operation : OperationId) (w : World) :
    recordAccepted operation none w = w := by
  simp [recordAccepted]

theorem recordAccepted_apply (operation : OperationId) (decides : Option ControlResult)
    (w : World) : (recordAccepted operation decides w).accepted operation =
      (w.accepted operation).or decides := by
  simp [recordAccepted]

/-- The server records at most the decision of this operation, and a terminal frame
shows what it holds. -/
theorem serveOneShot_cases (operation : OperationId) (event : OneShotEvent) (w : World) :
    (∃ code detail, serveOneShot operation event w = (.error (some code) detail, w)) ∨
      ∃ answer, serveOneShot operation event w =
          (answer, recordAccepted operation event.decides w) ∧
        (∀ code detail, answer ≠ .error (some code) detail) ∧
        ∀ result, answer = .frame result → result.outcome ≠ .inProgress →
          (w.accepted operation).or event.decides = some result := by
  rcases event with ⟨decides, reply⟩
  cases reply with
  | rejected code => exact .inl ⟨code, _, rfl⟩
  | answered hash =>
    refine .inr ⟨_, rfl, by simp, ?_⟩
    rintro result ⟨⟩ terminal
    cases recorded : (w.accepted operation).or decides with
    | none => simp [recorded] at terminal
    | some result => simp
  | failed detail => exact .inr ⟨_, rfl, by simp, by simp⟩
  | noFrame => exact .inr ⟨_, rfl, by simp, by simp⟩
  | manyFrames => exact .inr ⟨_, rfl, by simp, by simp⟩
  | unparsable detail => exact .inr ⟨_, rfl, by simp, by simp⟩

theorem runOneShot_ensures (operation : OperationId) (e : Attempt) (w : World) :
    Ensures (runOneShot operation) e (fun o w' =>
      (o = .crashed ∧ w' = w) ∨
      (∃ code detail, o = .ok (.error (some code) detail) ∧ w' = w) ∨
      ∃ answer decides, o = .ok answer ∧ Decided e decides ∧
        w' = recordAccepted operation decides w ∧
        (∀ code detail, answer ≠ .error (some code) detail) ∧
        ∀ result, answer = .frame result → result.outcome ≠ .inProgress →
          (w.accepted operation).or decides = some result) w := by
  unfold Ensures runOneShot
  cases e.faults .oneShot with
  | crash => exact .inl ⟨rfl, rfl⟩
  | fail detail =>
    exact .inr (.inr ⟨_, none, rfl, .inl rfl, (recordAccepted_none _ _).symm, by simp, by simp⟩)
  | none =>
    rcases serveOneShot_cases operation e.oneShot w with ⟨code, detail, h⟩ | ⟨answer, h, rest⟩
    · exact .inr (.inl ⟨code, detail, by rw [h], by rw [h]⟩)
    · exact .inr (.inr ⟨answer, e.oneShot.decides, by rw [h], .inr rfl, by rw [h], rest⟩)

theorem readMigrationAnswer_ok {operation : OperationId} {hash : Digest}
    {answer : OneShotAnswer} {result : ControlResult}
    (h : readMigrationAnswer operation hash answer = .ok result) : answer = .frame result := by
  obtain ⟨decoded, hdecoded, h⟩ := bind_eq_ok h
  obtain ⟨_, _, h⟩ := bind_eq_ok h
  cases h
  cases answer with
  | frame frame =>
    simp only [decodeOperatorAnswer] at hdecoded
    split at hdecoded
    · cases hdecoded
      rfl
    · cases hdecoded
  | _ => cases hdecoded

theorem settleMigration_ensures {job : UpdateJob} {plan : UpdatePlan} {e : Attempt}
    {run run₁ : Running} {result : ControlResult} {decides : Option ControlResult}
    (ordered : job.migrationJws.isSome) (decided : Decided e decides)
    (answered : result.outcome ≠ .inProgress →
      Answered job (recordAccepted job.operationId decides run.world) result)
    (h : run₁ = ⟨recordAccepted job.operationId decides run.world,
      { run.performed with migrationOutcomeUnknown := true }⟩) :
    Ensures (settleMigration job plan.verified result) e (Dispatched job plan e run) run₁ := by
  subst h
  unfold settleMigration
  cases outcome : result.outcome with
  | inProgress => exact .unknown _ (by simp) ordered decides decided
  | failed =>
    simp only [ensures_bind, ensures_note, after_ok, ensures_pure]
    exact .failed result ordered decides decided outcome (answered (by simp [outcome]))
  | succeeded =>
    have answered := answered (by simp [outcome])
    simp only [ensures_bind, ensures_note, after_ok, ensures_pure, ensures_onlyIf,
      ensures_onWorld, recordMigration]
    refine ⟨fun irreversible => ?_, fun revertible => ?_⟩
    · apply (storeState_ensures _ _ e _).mono
      rintro o w' ⟨stored, clean⟩
      cases o with
      | ok state =>
        simp only [after_ok, ensures_pure]
        rcases stored with ⟨unfinished, rfl⟩ | ⟨before, after, hbefore, hafter, rfl, ho⟩
        · exact absurd rfl (unfinished state)
        · have := @Dispatched.applied _ _ e run (.ok none) _ result ordered decides
            decided outcome answered irreversible (.inr ⟨rfl, before, after, hbefore, hafter, rfl⟩)
            (by simp)
          simpa [irreversible] using this
      | error x =>
        rcases stored with ⟨unfinished, rfl⟩ | ⟨_, _, _, _, _, ho⟩
        · have := @Dispatched.applied _ plan e run (.error x) _ result
            ordered decides decided outcome answered irreversible (.inl ⟨by simp, rfl⟩)
            (fun fault state hs state' h => by simpa using clean fault state state' hs h)
          simpa [irreversible] using this
        · cases ho
      | crashed =>
        rcases stored with ⟨unfinished, rfl⟩ | ⟨_, _, _, _, _, ho⟩
        · have := @Dispatched.applied _ plan e run .crashed _ result
            ordered decides decided outcome answered irreversible (.inl ⟨by simp, rfl⟩)
            (fun fault state hs state' h => by simpa using clean fault state state' hs h)
          simpa [irreversible] using this
        · cases ho
    · have revertible : migrationRequiresRecovery result = false := by simpa using revertible
      have := @Dispatched.unchanged _ plan e run result ordered decides
        decided outcome answered revertible
      simpa [revertible] using this

theorem dispatchMigration_ensures (job : UpdateJob) (plan : UpdatePlan) (e : Attempt)
    (run : Running) :
    Ensures (dispatchMigration job plan) e (Dispatched job plan e run) run := by
  unfold dispatchMigration
  cases hjws : job.migrationJws with
  | none => exact .notOrdered hjws
  | some jws =>
    have ordered : job.migrationJws.isSome := by simp [hjws]
    cases job.migrationRequestHash with
    | none => exact .unreached _ (by simp) ordered
    | some hash =>
      simp only [ensures_bind, ensures_onWorld, ensures_perform, ensures_environment, ensures_get,
        ensures_require, after_ok, after_error, after_crashed]
      refine ⟨fun _ => ⟨fun _ => ?_, fun _ => .unreached _ (by simp) ordered⟩,
        fun _ _ => .unreached _ (by simp) ordered, fun _ => .unreached _ (by simp) ordered⟩
      unfold askMigration
      simp only [ensures_bind, ensures_note, after_ok, ensures_onWorld]
      apply (runOneShot_ensures job.operationId e run.world).mono
      rintro o w' (⟨rfl, rfl⟩ | ⟨code, detail, rfl, rfl⟩ | ⟨answer, decides, rfl, decided, rfl, plain,
        terminal⟩)
      · simp only [after_crashed]
        simpa [recordAccepted_none] using
          @Dispatched.unknown _ plan e run .crashed (by simp) ordered none (.inl rfl)
      · simp only [after_ok]
        by_cases proves : provesRejection code = true
        · simp only [proves, if_true, ensures_bind, ensures_note, after_ok, ensures_throw,
            after_error]
          exact .rejected code detail proves ordered
        · simp only [proves, Bool.false_eq_true, if_false, ensures_throw, after_error]
          simpa [recordAccepted_none] using
            @Dispatched.unknown _ plan e run (.error _) (by simp) ordered
              none (.inl rfl)
      · have key : Ensures (ofExcept (readMigrationAnswer job.operationId hash answer)) e
            (After (settleMigration job plan.verified) e (Dispatched job plan e run))
            (⟨recordAccepted job.operationId decides run.world,
              { run.performed with migrationOutcomeUnknown := true }⟩ : Running) := by
          rw [ensures_ofExcept]
          refine ⟨fun result hresult => ?_, fun x _ => .unknown _ (by simp) ordered decides decided⟩
          exact settleMigration_ensures ordered decided (fun h => by
            rw [Answered, recordAccepted_apply]
            exact terminal result (readMigrationAnswer_ok hresult) h) rfl
        cases answer with
        | error rejection detail =>
          cases rejection with
          | none => exact key
          | some code => exact absurd rfl (plain code detail)
        | _ => exact key

/-- Dispatching touches the server's record and the fence, and nothing else. -/
theorem Dispatched.world {job : UpdateJob} {plan : UpdatePlan} {e : Attempt} {run run' : Running}
    {o : Outcome Failure (Option ControlResult)} (h : Dispatched job plan e run o run') :
    run'.world = { run.world with
      accepted := run'.world.accepted, state := run'.world.state } := by
  cases h with
  | applied _ w' result ordered decides decided outcome answered irreversible fence refusal =>
    rcases fence with ⟨-, rfl⟩ | ⟨-, state, state', -, -, rfl⟩ <;> rfl
  | _ => rfl

/-- The document a dispatch leaves: the same one, or the same one with the fence. -/
theorem Dispatched.state {job : UpdateJob} {plan : UpdatePlan} {e : Attempt} {run run' : Running}
    {o : Outcome Failure (Option ControlResult)} (h : Dispatched job plan e run o run') :
    run'.world.state = run.world.state ∨ ∃ state, run.world.state = some state ∧
      (∀ fence ∈ state.appliedMigration, fence = ⟨job.operationId, plan.verified.digest⟩) ∧
      run'.world.state = some { state with
        appliedMigration := some ⟨job.operationId, plan.verified.digest⟩ } := by
  cases h with
  | applied _ w' result ordered decides decided outcome answered irreversible fence refusal =>
    rcases fence with ⟨-, rfl⟩ | ⟨-, state, state', before, recorded, rfl⟩
    · exact .inl rfl
    · obtain ⟨rfl, -, same⟩ := recordMigrationApplied_ok recorded
      exact .inr ⟨state, before, same, rfl⟩
  | _ => exact .inl rfl

/-! ## The runtime -/

/-- The container engine's `rm` of a source, if there is one. -/
def sourceRemoved (w : World) : World :=
  match w.runtime with
  | none => w
  | some _ => w.after none .removed

/-- What `replace` can leave: the source, nothing, a stopped unit, or the replacement. -/
inductive Replaced (kind : RuntimeBackendKind) (replacement : RuntimeReplacement) (w : World) :
    Outcome Failure Unit → World → Prop
  | kept (o : Outcome Failure Unit) (unfinished : o ≠ .ok ()) : Replaced kind replacement w o w
  | removed (o : Outcome Failure Unit) (unfinished : o ≠ .ok ()) (container : kind.isContainer)
      (free : ∀ object, w.runtime = some object → mayRemoveSource replacement object = .ok ()) :
      Replaced kind replacement w o (sourceRemoved w)
  | created (container : kind.isContainer) (repository : String) (digest : Digest)
      (artifact : replacement.artifact = .oci repository digest)
      (free : ∀ object, w.runtime = some object → mayRemoveSource replacement object = .ok ()) :
      Replaced kind replacement w (.ok ()) ((sourceRemoved w).after
        (some (createdObject replacement)) (.created (createdObject replacement)))
  | unitStopped (o : Outcome Failure Unit) (unfinished : o ≠ .ok ())
      (unit : kind.isContainer = false) (object : RuntimeObject)
      (present : w.runtime = some object) :
      Replaced kind replacement w o (w.after (some object.halted) .stopped)
  | overwritten (unit : kind.isContainer = false) (object : RuntimeObject)
      (present : w.runtime = some object) (path : Path) (digest : Digest)
      (artifact : replacement.artifact = .hostBinary path digest)
      (cached : digest ∈ w.hostArtifacts) :
      Replaced kind replacement w (.ok ()) ((w.after (some object.halted) .stopped).after
        (some (object.halted.withBinary digest)) (.created (object.halted.withBinary digest)))

theorem replaceContainer_ensures {kind : RuntimeBackendKind} (container : kind.isContainer)
    (site : Site) (replacement : RuntimeReplacement) (e : Attempt) (w : World) :
    Ensures (replaceContainer site replacement) e (Replaced kind replacement w) w := by
  unfold replaceContainer
  cases hartifact : replacement.artifact with
  | hostBinary path digest => exact .kept _ (by simp)
  | unknown => exact .kept _ (by simp)
  | oci repository digest =>
    unfold removeReplacementSource createReplacement
    simp only [ensures_bind, ensures_perform, ensures_get, ensures_pure, after_ok, after_error,
      after_crashed]
    refine ⟨fun _ => ?_, fun _ _ => .kept _ (by simp), fun _ => .kept _ (by simp)⟩
    cases hobject : w.runtime with
    | none =>
      have free : ∀ object, w.runtime = some object →
          mayRemoveSource replacement object = .ok () := by simp [hobject]
      have gone : sourceRemoved w = w := by simp [sourceRemoved, hobject]
      simp only [ensures_pure, after_ok, ensures_perform, ensures_modify]
      refine ⟨fun _ => ?_, fun _ _ => .kept _ (by simp), fun _ => .kept _ (by simp)⟩
      simpa [gone] using
        Replaced.created (w := w) container repository digest hartifact free
    | some object =>
      simp only [ensures_bind, ensures_ofExcept, ensures_perform, ensures_modify, after_ok,
        after_error, after_crashed]
      refine ⟨fun _ allowed => ⟨fun _ => ?_, fun _ _ => .kept _ (by simp),
        fun _ => .kept _ (by simp)⟩, fun _ _ => .kept _ (by simp)⟩
      have free : ∀ object, w.runtime = some object →
          mayRemoveSource replacement object = .ok () := by
        rintro other h
        rw [hobject] at h
        cases h
        exact allowed
      have gone : sourceRemoved w = w.after none .removed := by simp [sourceRemoved, hobject]
      rw [← gone]
      exact ⟨fun _ => .created container repository digest hartifact free,
        fun _ _ => .removed _ (by simp) container free,
        fun _ => .removed _ (by simp) container free⟩

theorem changeRuntime_ensures (label : Effect) (change : RuntimeObject → RuntimeObject)
    (event : RuntimeObject → RuntimeEvent) (e : Attempt) (w : World) :
    Ensures (changeRuntime label change event) e (fun o w' =>
      (o ≠ .ok () ∧ w' = w) ∨ ∃ object, w.runtime = some object ∧ o = .ok () ∧
        w' = w.after (some (change object)) (event (change object))) w := by
  unfold Ensures
  rcases changeRuntime_cases label change event e w with ⟨object, present, h⟩ | ⟨x, h⟩ | h
  · exact .inr ⟨object, present, by rw [h], by rw [h]⟩
  · exact .inl ⟨by rw [h]; simp, by rw [h]⟩
  · exact .inl ⟨by rw [h]; simp, by rw [h]⟩

theorem replaceUnit_ensures {kind : RuntimeBackendKind} (unit : kind.isContainer = false)
    (site : Site) (replacement : RuntimeReplacement) (e : Attempt) (w : World) :
    Ensures (replaceUnit site replacement) e (Replaced kind replacement w) w := by
  unfold replaceUnit
  cases hartifact : replacement.artifact with
  | oci repository digest => exact .kept _ (by simp)
  | unknown => exact .kept _ (by simp)
  | hostBinary path digest =>
    simp only [ensures_bind, ensures_get, ensures_require, after_ok, after_error]
    refine ⟨fun cached => ?_, fun _ => .kept _ (by simp)⟩
    apply (changeRuntime_ensures _ _ _ e w).mono
    rintro o w₁ (⟨unfinished, rfl⟩ | ⟨object, present, rfl, rfl⟩)
    · cases o with
      | ok _ => exact absurd rfl unfinished
      | error x => exact .kept _ (by simp)
      | crashed => exact .kept _ (by simp)
    · simp only [after_ok]
      apply (changeRuntime_ensures _ _ _ e _).mono
      rintro o w₂ (⟨unfinished, rfl⟩ | ⟨halted, present', rfl, rfl⟩)
      · exact .unitStopped o unfinished unit object present
      · cases present'
        exact .overwritten unit object present path digest hartifact cached

theorem replace_ensures (kind : RuntimeBackendKind) (site : Site)
    (replacement : RuntimeReplacement) (e : Attempt) (w : World) :
    Ensures (replace kind site replacement) e (Replaced kind replacement w) w := by
  unfold replace
  by_cases container : kind.isContainer = true
  · rw [if_pos container]
    exact replaceContainer_ensures container site replacement e w
  · rw [if_neg container]
    exact replaceUnit_ensures (by simpa using container) site replacement e w

/-- The world in which the old runtime has been stopped, if it was running. -/
def writerStopped (running : Bool) (w w₁ : World) : Prop :=
  if running then ∃ object, w.runtime = some object ∧ w₁ = w.after (some object.halted) .stopped
  else w₁ = w

/-- What activation can leave. From the stop on, the attempt counts the runtime as
replaced, whatever becomes of the replacement. -/
inductive Activating (job : UpdateJob) (plan : UpdatePlan) (run : Running) :
    Outcome Failure Unit → Running → Prop
  | notNeeded (absent : plan.replacement = none) : Activating job plan run (.ok ()) run
  | unstopped (o : Outcome Failure Unit) (unfinished : o ≠ .ok ())
      (replacement : RuntimeReplacement) (planned : plan.replacement = some replacement) :
      Activating job plan run o run
  | unreplaced (o : Outcome Failure Unit) (unfinished : o ≠ .ok ())
      (replacement : RuntimeReplacement) (planned : plan.replacement = some replacement)
      (w₁ w₂ : World) (stopped : writerStopped plan.observation.running run.world w₁)
      (replaced : Replaced job.runtimeKind replacement w₁ o w₂) :
      Activating job plan run o ⟨w₂, { run.performed with replacedRuntime := true }⟩
  | unstarted (o : Outcome Failure Unit) (unfinished : o ≠ .ok ())
      (replacement : RuntimeReplacement) (planned : plan.replacement = some replacement)
      (w₁ w₂ : World) (stopped : writerStopped plan.observation.running run.world w₁)
      (replaced : Replaced job.runtimeKind replacement w₁ (.ok ()) w₂) :
      Activating job plan run o ⟨w₂, { run.performed with replacedRuntime := true }⟩
  | activated (replacement : RuntimeReplacement) (planned : plan.replacement = some replacement)
      (w₁ w₂ : World) (stopped : writerStopped plan.observation.running run.world w₁)
      (replaced : Replaced job.runtimeKind replacement w₁ (.ok ()) w₂) (object : RuntimeObject)
      (present : w₂.runtime = some object) :
      Activating job plan run (.ok ())
        ⟨w₂.after (some object.launched) (.started object.launched),
          { run.performed with replacedRuntime := true }⟩

theorem activateRuntime_ensures (job : UpdateJob) (plan : UpdatePlan) (e : Attempt)
    (run : Running) :
    Ensures (activateRuntime job plan) e (Activating job plan run) run := by
  unfold activateRuntime
  cases planned : plan.replacement with
  | none => exact .notNeeded planned
  | some replacement =>
    have fromStopped : ∀ w₁, writerStopped plan.observation.running run.world w₁ →
        Ensures (do
          note fun performed => { performed with replacedRuntime := true }
          onWorld (replace job.runtimeKind .change replacement)
          onWorld (start .change)) e (Activating job plan run) { run with world := w₁ } := by
      intro w₁ stopped
      simp only [ensures_bind, ensures_note, after_ok, ensures_onWorld]
      apply (replace_ensures job.runtimeKind .change replacement e w₁).mono
      intro o w₂ replaced
      cases o with
      | error x => exact .unreplaced _ (by simp) replacement planned w₁ w₂ stopped replaced
      | crashed => exact .unreplaced _ (by simp) replacement planned w₁ w₂ stopped replaced
      | ok _ =>
        simp only [after_ok, ensures_onWorld]
        apply (changeRuntime_ensures _ _ _ e w₂).mono
        rintro o w₃ (⟨unfinished, rfl⟩ | ⟨object, present, rfl, rfl⟩)
        · exact .unstarted o unfinished replacement planned w₁ _ stopped replaced
        · exact .activated replacement planned w₁ w₂ stopped replaced object present
    rw [ensures_bind, ensures_onlyIf, ensures_onWorld]
    refine ⟨fun running => ?_, fun stopped => ?_⟩
    · apply (changeRuntime_ensures _ _ _ e run.world).mono
      rintro o w₁ (⟨unfinished, rfl⟩ | ⟨object, present, rfl, rfl⟩)
      · cases o with
        | ok _ => exact absurd rfl unfinished
        | error x => exact .unstopped _ (by simp) replacement planned
        | crashed => exact .unstopped _ (by simp) replacement planned
      · exact fromStopped _ (by rw [writerStopped, if_pos running]; exact ⟨object, present, rfl⟩)
    · exact fromStopped _ (by rw [writerStopped, if_neg stopped])

/-- Events are only added to the history. -/
def Extends (w w' : World) : Prop := ∃ events, w'.history = events ++ w.history

theorem Extends.refl (w : World) : Extends w w := ⟨[], rfl⟩

theorem Extends.trans {w₁ w₂ w₃ : World} (h : Extends w₁ w₂) (h' : Extends w₂ w₃) :
    Extends w₁ w₃ := by
  obtain ⟨first, h⟩ := h
  obtain ⟨second, h'⟩ := h'
  exact ⟨second++first, by rw [h', h, List.append_assoc]⟩

theorem extends_after (w : World) (runtime : Option RuntimeObject) (event : RuntimeEvent) :
    Extends w (w.after runtime event) :=
  ⟨[event], rfl⟩

theorem sourceRemoved_extends (w : World) : Extends w (sourceRemoved w) := by
  unfold sourceRemoved
  split
  · exact Extends.refl w
  · exact extends_after _ _ _

theorem Replaced.extends {kind : RuntimeBackendKind} {replacement : RuntimeReplacement}
    {w w' : World} {o : Outcome Failure Unit} (h : Replaced kind replacement w o w') :
    Extends w w' := by
  cases h with
  | kept => exact Extends.refl w
  | removed => exact sourceRemoved_extends w
  | created => exact (sourceRemoved_extends w).trans (extends_after _ _ _)
  | unitStopped => exact extends_after _ _ _
  | overwritten => exact (extends_after _ _ _).trans (extends_after _ _ _)

theorem writerStopped.extends {running : Bool} {w w₁ : World} (h : writerStopped running w w₁) :
    Extends w w₁ := by
  unfold writerStopped at h
  split at h
  · obtain ⟨object, -, rfl⟩ := h
    exact extends_after _ _ _
  · rw [h]
    exact Extends.refl w

/-- An activation that replaced the runtime shows in the history. -/
theorem Activating.started {job : UpdateJob} {plan : UpdatePlan} {run run' : Running}
    (h : Activating job plan run (.ok ()) run') (planned : plan.replacement.isSome) :
    run'.world.history ≠ run.world.history := by
  cases h with
  | notNeeded absent => simp [absent] at planned
  | unstopped _ unfinished => exact absurd rfl unfinished
  | unreplaced _ unfinished => exact absurd rfl unfinished
  | unstarted _ unfinished => exact absurd rfl unfinished
  | activated replacement planned w₁ w₂ stopped replaced object present =>
    obtain ⟨events, h⟩ := stopped.extends.trans replaced.extends
    intro same
    have := congrArg List.length same
    simp [h] at this
    omega

/-- An activation that finished leaves a runtime this deployment owns. -/
theorem Activating.owned {job : UpdateJob} {plan : UpdatePlan} {run run' : Running}
    {platform : Platform} {object : RuntimeObject} {live : Digest}
    (h : Activating job plan run (.ok ()) run') (present : run.world.runtime = some object)
    (observed : plan.observation = observation platform job.runtimeKind object)
    (planned : planReplacement job plan.observation live plan.verified =
      .ok (plan.replacement, plan.before))
    (owned : Owned job.runtimeKind job.deploymentId object) :
    ∃ object', run'.world.runtime = some object' ∧
      Owned job.runtimeKind job.deploymentId object' := by
  cases h with
  | notNeeded => exact ⟨object, present, owned⟩
  | unstopped _ unfinished => exact absurd rfl unfinished
  | unreplaced _ unfinished => exact absurd rfl unfinished
  | unstarted _ unfinished => exact absurd rfl unfinished
  | activated replacement needed w₁ w₂ stopped replaced started running =>
    refine ⟨_, rfl, Owned.launched ?_⟩
    have surface : replacement = surfaceWith plan.observation plan.verified.runtimeArtifact := by
      rcases planReplacement_ok planned with ⟨-, h, -⟩ | ⟨-, h, -⟩ <;> rw [h] at needed <;>
        cases needed
      rfl
    have source : ∀ found, w₁.runtime = some found →
        Owned job.runtimeKind job.deploymentId found := by
      intro found hfound
      unfold writerStopped at stopped
      split at stopped
      · obtain ⟨running, hrunning, rfl⟩ := stopped
        rw [present] at hrunning
        cases hrunning
        cases hfound
        exact owned.halted
      · rw [stopped, present] at hfound
        cases hfound
        exact owned
    cases replaced with
    | kept _ unfinished => exact absurd rfl unfinished
    | removed _ unfinished => exact absurd rfl unfinished
    | unitStopped _ unfinished => exact absurd rfl unfinished
    | created container =>
      cases running
      rw [surface, observed]
      exact owned.created container platform _
    | overwritten unit found hfound path digest =>
      cases running
      exact (source found hfound).halted.withBinary digest

/-- Replacing touches the runtime and its history, and nothing else. -/
theorem Replaced.world {kind : RuntimeBackendKind} {replacement : RuntimeReplacement}
    {w w' : World} {o : Outcome Failure Unit} (h : Replaced kind replacement w o w') :
    w' = { w with runtime := w'.runtime, history := w'.history } := by
  have removed : sourceRemoved w = { w with
      runtime := (sourceRemoved w).runtime, history := (sourceRemoved w).history } := by
    unfold sourceRemoved
    split <;> rfl
  cases h with
  | kept => rfl
  | removed => exact removed
  | created => rw [removed]; rfl
  | unitStopped => rfl
  | overwritten => rfl

theorem writerStopped.world {running : Bool} {w w₁ : World} (h : writerStopped running w w₁) :
    w₁ = { w with runtime := w₁.runtime, history := w₁.history } := by
  unfold writerStopped at h
  split at h
  · obtain ⟨object, -, rfl⟩ := h
    rfl
  · rw [h]

/-- Activation touches the runtime and its history, and nothing else. -/
theorem Activating.world {job : UpdateJob} {plan : UpdatePlan} {run run' : Running}
    {o : Outcome Failure Unit} (h : Activating job plan run o run') :
    run'.world = { run.world with
      runtime := run'.world.runtime, history := run'.world.history } := by
  cases h with
  | notNeeded => rfl
  | unstopped => rfl
  | unreplaced _ _ _ _ _ _ stopped replaced =>
    rw [replaced.world, stopped.world]
  | unstarted _ _ _ _ _ _ stopped replaced =>
    rw [replaced.world, stopped.world]
  | activated _ _ _ _ stopped replaced =>
    rw [replaced.world, stopped.world]
    rfl

/-! ## Confirmation -/

/-- A runtime that runs the given artifact and answers under the config on disk. -/
def Confirmed (platform : Platform) (kind : RuntimeBackendKind) (digest : Digest) (port : ℕ)
    (issuer : String) (w : World) : Prop :=
  ∃ object config, w.runtime = some object ∧ w.config = some config ∧ object.running ∧
    (observation platform kind object).digest = some digest ∧
    platform.serves object port issuer config

theorem confirmRuntime_ensures (kind : RuntimeBackendKind) (digest : Digest) (port : ℕ)
    (issuer mismatch : String) (e : Attempt) (w : World) :
    Ensures (confirmRuntime kind digest port issuer mismatch) e
      (fun o w' => w' = w ∧ (o = .ok () → Confirmed e.platform kind digest port issuer w)) w := by
  unfold confirmRuntime inspect probeLocalHealth
  simp only [ensures_bind, ensures_perform, ensures_environment, ensures_get, after_ok,
    after_error, after_crashed]
  refine ⟨fun _ => ?_, by simp, by simp⟩
  cases hobject : w.runtime with
  | none => simp
  | some object =>
    simp only [ensures_pure, after_ok, ensures_bind, ensures_require, ensures_perform,
      ensures_environment, ensures_get, after_error]
    refine ⟨fun admitted => ⟨fun _ => ?_, by simp, by simp⟩, by simp⟩
    cases hconfig : w.config with
    | none => simp
    | some config =>
      simp only [hobject, ensures_require]
      exact ⟨fun answers => ⟨trivial, fun _ => ⟨object, config, hobject, hconfig,
        by simpa [observation] using admitted.1, admitted.2, answers⟩⟩, by simp⟩

/-! ## The whole run -/

/-- The outcome of a phase that did not hand over to the next one. -/
def Unfinished {α : Type} (o : Outcome Failure α) : Prop := ∀ a, o ≠ .ok a

theorem unfinished_error {α : Type} (x : Failure) : Unfinished (.error x : Outcome Failure α) :=
  fun _ => by simp

theorem unfinished_crashed {α : Type} : Unfinished (.crashed : Outcome Failure α) :=
  fun _ => by simp

def retained (plan : UpdatePlan) (run : Running) : Running :=
  { run with performed := retainRuntime plan.before plan.observation run.performed }

/-- How far an admitted attempt came. -/
inductive CarriedOut (job : UpdateJob) (plan : UpdatePlan) (e : Attempt) (run : Running) :
    Outcome Failure UpdateExecution → Running → Prop
  | unstaged (o : Outcome Failure UpdateExecution) (unfinished : Unfinished o)
      (o₁ : Outcome Failure Unit) (unfinished₁ : o₁ ≠ .ok ()) (run₁ : Running)
      (staged : Staged e.platform job plan (retained plan run) o₁ run₁) :
      CarriedOut job plan e run o run₁
  | undispatched (o : Outcome Failure UpdateExecution) (unfinished : Unfinished o)
      (run₁ run₂ : Running) (o₂ : Outcome Failure (Option ControlResult))
      (unfinished₂ : Unfinished o₂)
      (staged : Staged e.platform job plan (retained plan run) (.ok ()) run₁)
      (dispatched : Dispatched job plan e run₁ o₂ run₂) :
      CarriedOut job plan e run o run₂
  | migrationFailed (run₁ run₂ : Running) (result : ControlResult)
      (staged : Staged e.platform job plan (retained plan run) (.ok ()) run₁)
      (dispatched : Dispatched job plan e run₁ (.ok (some result)) run₂) :
      CarriedOut job plan e run (.ok (.migrationFailed result)) run₂
  | unactivated (o : Outcome Failure UpdateExecution) (unfinished : Unfinished o)
      (run₁ run₂ run₃ : Running) (o₃ : Outcome Failure Unit) (unfinished₃ : o₃ ≠ .ok ())
      (staged : Staged e.platform job plan (retained plan run) (.ok ()) run₁)
      (dispatched : Dispatched job plan e run₁ (.ok none) run₂)
      (activating : Activating job plan run₂ o₃ run₃) :
      CarriedOut job plan e run o run₃
  | uncommitted (o : Outcome Failure UpdateExecution) (unfinished : Unfinished o)
      (run₁ run₂ run₃ : Running)
      (staged : Staged e.platform job plan (retained plan run) (.ok ()) run₁)
      (dispatched : Dispatched job plan e run₁ (.ok none) run₂)
      (activating : Activating job plan run₂ (.ok ()) run₃) :
      CarriedOut job plan e run o run₃
  | committed (run₁ run₂ run₃ : Running) (state state' : DeploymentState)
      (staged : Staged e.platform job plan (retained plan run) (.ok ()) run₁)
      (dispatched : Dispatched job plan e run₁ (.ok none) run₂)
      (activating : Activating job plan run₂ (.ok ()) run₃)
      (confirmed : Confirmed e.platform job.runtimeKind plan.verified.digest job.port job.issuer
        run₃.world)
      (before : run₃.world.state = some state)
      (after : applyUpdateHealthyFromLive state job.expectedRevision
        (updateCommit job plan run₃.performed) plan.recordedCurrentWasLive = .ok state') :
      CarriedOut job plan e run
        (.ok (.activated ⟨state'.config.revision, state'.currentRelease,
          run₃.performed.migrationResult⟩))
        { run₃ with world := { run₃.world with state := some state' } }

theorem confirmAndCommit_ensures (job : UpdateJob) (plan : UpdatePlan) (e : Attempt)
    (run : Running) :
    Ensures (confirmAndCommit job plan) e (fun o run' =>
      (Unfinished o ∧ run' = run) ∨ ∃ state state',
        Confirmed e.platform job.runtimeKind plan.verified.digest job.port job.issuer run.world ∧
        run.world.state = some state ∧
        applyUpdateHealthyFromLive state job.expectedRevision
          (updateCommit job plan run.performed) plan.recordedCurrentWasLive = .ok state' ∧
        o = .ok ⟨state'.config.revision, state'.currentRelease, run.performed.migrationResult⟩ ∧
        run' = { run with world := { run.world with state := some state' } }) run := by
  unfold confirmAndCommit
  rw [ensures_bind, ensures_onWorld]
  apply (confirmRuntime_ensures _ _ _ _ _ e run.world).mono
  rintro o w' ⟨rfl, confirmed⟩
  cases o with
  | error x => exact .inl ⟨unfinished_error x, rfl⟩
  | crashed => exact .inl ⟨unfinished_crashed, rfl⟩
  | ok _ =>
    simp only [after_ok, ensures_bind, ensures_get, ensures_onWorld]
    apply (storeState_ensures _ _ e run.world).mono
    rintro o w' ⟨⟨unfinished, rfl⟩ | ⟨state, state', before, applied, rfl, rfl⟩, -⟩
    · cases o with
      | ok state => exact absurd rfl (unfinished state)
      | error x => exact .inl ⟨unfinished_error x, rfl⟩
      | crashed => exact .inl ⟨unfinished_crashed, rfl⟩
    · exact .inr ⟨state, state', confirmed rfl, before, applied, rfl, rfl⟩

theorem carryOut_ensures (job : UpdateJob) (plan : UpdatePlan) (e : Attempt) (run : Running) :
    Ensures (carryOut job plan) e (CarriedOut job plan e run) run := by
  unfold carryOut
  rw [ensures_bind, ensures_note, after_ok, ensures_bind]
  apply (stageConfig_ensures job plan e (retained plan run)).mono
  intro o₁ run₁ staged
  cases o₁ with
  | error x => exact .unstaged _ (unfinished_error x) _ (by simp) run₁ staged
  | crashed => exact .unstaged _ unfinished_crashed _ (by simp) run₁ staged
  | ok _ =>
    rw [after_ok, ensures_bind]
    apply (dispatchMigration_ensures job plan e run₁).mono
    intro o₂ run₂ dispatched
    cases o₂ with
    | error x =>
      exact .undispatched _ (unfinished_error x) run₁ run₂ _ (unfinished_error x) staged dispatched
    | crashed =>
      exact .undispatched _ unfinished_crashed run₁ run₂ _ unfinished_crashed staged dispatched
    | ok failed =>
      rw [after_ok]
      cases failed with
      | some result => exact .migrationFailed run₁ run₂ result staged dispatched
      | none =>
        simp only [ensures_bind]
        apply (activateRuntime_ensures job plan e run₂).mono
        intro o₃ run₃ activating
        cases o₃ with
        | error x =>
          exact .unactivated _ (unfinished_error x) run₁ run₂ run₃ _ (by simp) staged dispatched
            activating
        | crashed =>
          exact .unactivated _ unfinished_crashed run₁ run₂ run₃ _ (by simp) staged dispatched
            activating
        | ok _ =>
          rw [after_ok, ensures_bind]
          apply (confirmAndCommit_ensures job plan e run₃).mono
          rintro o run₄ (⟨unfinished, rfl⟩ | ⟨state, state', confirmed, before, applied, rfl, rfl⟩)
          · cases o with
            | ok facts => exact absurd rfl (unfinished facts)
            | error x =>
              exact .uncommitted _ (unfinished_error x) run₁ run₂ _ staged dispatched activating
            | crashed =>
              exact .uncommitted _ unfinished_crashed run₁ run₂ _ staged dispatched activating
          · exact .committed run₁ run₂ run₃ state state' staged dispatched activating confirmed
              before applied

/-- How far an attempt came. -/
inductive Ran (job : UpdateJob) (e : Attempt) (run : Running) :
    Outcome Failure UpdateExecution → Running → Prop
  | refused (o : Outcome Failure UpdateExecution) (unfinished : Unfinished o) (w' : World)
      (kept : KeptArtifacts run.world w') : Ran job e run o { run with world := w' }
  | noop (w' : World) (kept : KeptArtifacts run.world w')
      (admitted : admission e.platform job run.world = .ok none) :
      Ran job e run (.ok (.noop job.expectedRevision)) { run with world := w' }
  | carried (plan : UpdatePlan) (admitted : admission e.platform job run.world = .ok (some plan))
      (o : Outcome Failure UpdateExecution) (run' : Running)
      (carriedOut : CarriedOut job plan e
        { run with world := keepArtifact plan.verified.runtimeArtifact run.world } o run') :
      Ran job e run o run'

theorem runUpdate_ensures (job : UpdateJob) (e : Attempt) (run : Running) :
    Ensures (runUpdate job) e (Ran job e run) run := by
  unfold runUpdate
  rw [ensures_bind, ensures_onWorld]
  apply (admitUpdate_ensures job e run.world).mono
  rintro o w' ⟨kept, answer⟩
  cases o with
  | error x => exact .refused _ (unfinished_error x) w' kept
  | crashed => exact .refused _ unfinished_crashed w' kept
  | ok plan =>
    obtain ⟨admitted, keeps⟩ := answer plan rfl
    rw [after_ok]
    cases plan with
    | none => exact .noop w' kept admitted
    | some plan =>
      rw [keeps plan rfl]
      apply (carryOut_ensures job plan e _).mono
      exact fun o run' carriedOut => .carried plan admitted o run' carriedOut

/-! ## The conclusion -/

/-- The writer has been stopped, or could not be. -/
def WriterFenced (w w' : World) : Prop :=
  w' = w ∨ ∃ object, w.runtime = some object ∧ w' = w.after (some object.halted) .stopped

theorem stopWriter_ensures (onFailure : String) (e : Attempt) (w : World) :
    Ensures (stopWriter onFailure) e
      (fun o w' => WriterFenced w w' ∧ ∀ x, o ≠ .error x) w := by
  unfold stopWriter
  rw [ensures_bind, ensures_attempt]
  apply (changeRuntime_ensures _ _ _ e w).mono
  rintro o w' (⟨unfinished, rfl⟩ | ⟨object, present, rfl, rfl⟩)
  · cases o with
    | ok _ => exact absurd rfl unfinished
    | error x => exact ⟨.inl rfl, by simp⟩
    | crashed => exact ⟨.inl rfl, by simp⟩
  · exact ⟨.inr ⟨object, present, rfl⟩, by simp⟩

/-- What `execute_update` can make of a failed run. -/
inductive ConcludedFailure (job : UpdateJob) (performed : PerformedSteps) (code : FailureCode)
    (e : Attempt) (w : World) : Outcome Failure UpdateExecution → World → Prop
  | fenced (applied : performed.migrationApplied = true) (o : Outcome Failure UpdateExecution)
      (w' : World) (writer : WriterFenced w w')
      (answer : o = .crashed ∨
        (∃ detail, o = .error ⟨.rollbackRecoveryRequired, detail⟩) ∨
        ∃ result detail, performed.migrationResult = some result ∧
          o = .ok (.recoveryRequired result detail)) :
      ConcludedFailure job performed code e w o w'
  | unknown (unapplied : performed.migrationApplied = false)
      (unresolved : performed.migrationOutcomeUnknown = true)
      (o : Outcome Failure UpdateExecution) (w' : World) (writer : WriterFenced w w')
      (answer : o = .crashed ∨ ∃ detail, o = .error ⟨.controlOutcomeUnknown, detail⟩) :
      ConcludedFailure job performed code e w o w'
  | undone (unapplied : performed.migrationApplied = false)
      (resolved : performed.migrationOutcomeUnknown = false)
      (o : Outcome Failure UpdateExecution)
      (answer : o = .crashed ∨ ∃ detail, o = .error ⟨code, detail⟩) :
      ConcludedFailure job performed code e w o (rollbackUpdate job performed e w).2

theorem stopWriterForRecovery_ensures (failure : Failure) (e : Attempt) (w : World) :
    Ensures (stopWriterForRecovery failure) e (fun o w' => WriterFenced w w' ∧
      (o = .crashed ∨ ∃ detail, o = .ok ⟨.rollbackRecoveryRequired, detail⟩)) w := by
  unfold stopWriterForRecovery
  rw [ensures_bind]
  apply (stopWriter_ensures _ e w).mono
  rintro (status | x | _) w' ⟨writer, noError⟩
  · exact ⟨writer, .inr ⟨_, rfl⟩⟩
  · exact absurd rfl (noError x)
  · exact ⟨writer, .inl rfl⟩

theorem stopWriterForUnknownMigration_ensures (failure : Failure) (e : Attempt) (w : World) :
    Ensures (stopWriterForUnknownMigration failure) e (fun o w' => WriterFenced w w' ∧
      (o = .crashed ∨ ∃ detail, o = .ok ⟨.controlOutcomeUnknown, detail⟩)) w := by
  unfold stopWriterForUnknownMigration
  rw [ensures_bind]
  apply (stopWriter_ensures _ e w).mono
  rintro (status | x | _) w' ⟨writer, noError⟩
  · exact ⟨writer, .inr ⟨_, rfl⟩⟩
  · exact absurd rfl (noError x)
  · exact ⟨writer, .inl rfl⟩

theorem concludeFailure_ensures (job : UpdateJob) (performed : PerformedSteps)
    (failure : Failure) (e : Attempt) (w : World) :
    Ensures (concludeFailure job performed failure) e
      (ConcludedFailure job performed failure.code e w) w := by
  unfold concludeFailure
  cases applied : performed.migrationApplied with
  | true =>
    rw [if_pos rfl, ensures_bind]
    apply (stopWriterForRecovery_ensures failure e w).mono
    rintro o w' ⟨writer, rfl | ⟨detail, rfl⟩⟩
    · exact .fenced applied _ w' writer (.inl rfl)
    · rw [after_ok]
      cases result : performed.migrationResult with
      | none => exact .fenced applied _ w' writer (.inr (.inl ⟨_, rfl⟩))
      | some result' => exact .fenced applied _ w' writer (.inr (.inr ⟨_, _, result, rfl⟩))
  | false =>
    rw [if_neg (by simp)]
    cases unresolved : performed.migrationOutcomeUnknown with
    | true =>
      rw [if_pos rfl, ensures_bind]
      apply (stopWriterForUnknownMigration_ensures failure e w).mono
      rintro o w' ⟨writer, rfl | ⟨detail, rfl⟩⟩
      · exact .unknown applied unresolved _ w' writer (.inl rfl)
      · exact .unknown applied unresolved _ w' writer (.inr ⟨_, rfl⟩)
    | false =>
      rw [if_neg (by simp), ensures_bind, ensures_attempt]
      unfold Ensures
      rcases h : rollbackUpdate job performed e w with ⟨o, w'⟩
      have world : w' = (rollbackUpdate job performed e w).2 := by rw [h]
      cases o with
      | ok _ =>
        rw [world]
        exact .undone applied unresolved _ (.inr ⟨_, rfl⟩)
      | error x =>
        rw [world]
        exact .undone applied unresolved _ (.inr ⟨_, rfl⟩)
      | crashed =>
        rw [world]
        exact .undone applied unresolved _ (.inl rfl)

/-- What `execute_update` can make of a durably failed migration. -/
inductive ConcludedFailedMigration (job : UpdateJob) (performed : PerformedSteps)
    (result : ControlResult) (e : Attempt) (w : World) :
    Outcome Failure UpdateExecution → World → Prop
  | fenced (applied : performed.migrationApplied = true) (o : Outcome Failure UpdateExecution)
      (w' : World) (writer : WriterFenced w w')
      (answer : o = .crashed ∨ ∃ detail, o = .error ⟨.rollbackRecoveryRequired, detail⟩) :
      ConcludedFailedMigration job performed result e w o w'
  | undone (unapplied : performed.migrationApplied = false)
      (o : Outcome Failure UpdateExecution)
      (answer : o = .crashed ∨ o = .ok (.migrationFailed result) ∨
        ∃ detail, o = .error ⟨.activationFailed, detail⟩) :
      ConcludedFailedMigration job performed result e w o (rollbackUpdate job performed e w).2

theorem concludeFailedMigration_ensures (job : UpdateJob) (performed : PerformedSteps)
    (result : ControlResult) (e : Attempt) (w : World) :
    Ensures (concludeFailedMigration job performed result) e
      (ConcludedFailedMigration job performed result e w) w := by
  unfold concludeFailedMigration
  cases applied : performed.migrationApplied with
  | true =>
    rw [if_pos rfl, ensures_bind]
    apply (stopWriterForRecovery_ensures _ e w).mono
    rintro o w' ⟨writer, rfl | ⟨detail, rfl⟩⟩
    · exact .fenced applied _ w' writer (.inl rfl)
    · exact .fenced applied _ w' writer (.inr ⟨_, rfl⟩)
  | false =>
    rw [if_neg (by simp), ensures_bind, ensures_attempt]
    unfold Ensures
    rcases h : rollbackUpdate job performed e w with ⟨o, w'⟩
    have world : w' = (rollbackUpdate job performed e w).2 := by rw [h]
    cases o with
    | ok _ =>
      rw [world]
      exact .undone applied _ (.inr (.inl rfl))
    | error x =>
      rw [world]
      exact .undone applied _ (.inr (.inr ⟨_, rfl⟩))
    | crashed =>
      rw [world]
      exact .undone applied _ (.inl rfl)

theorem executeUpdate_ensures {job : UpdateJob} {e : Attempt} {w : World}
    {Q : Outcome Failure UpdateExecution → World → Prop}
    (fenced : ∀ x, (∃ operation ∈ job.appliedMigrationOperationId, operation ≠ job.operationId) →
      x.code = .rollbackRecoveryRequired → Q (.error x) w)
    (ran : ∀ o run, (∀ operation ∈ job.appliedMigrationOperationId, operation = job.operationId) →
      runUpdate job e ⟨w, freshSteps job⟩ = (o, run) → Ran job e ⟨w, freshSteps job⟩ o run →
        Ensures (concludeUpdate job run.performed o) e Q run.world) :
    Ensures (executeUpdate job) e Q w := by
  unfold executeUpdate
  rw [ensures_bind, ensures_require]
  refine ⟨fun own => ?_, fun foreign => ?_⟩
  · exact ran _ _ own rfl (runUpdate_ensures job e _)
  · refine fenced _ ?_ rfl
    by_contra none
    exact foreign fun operation h => by_contra fun other => none ⟨operation, h, other⟩

/-- How `answer_update` reaches its executor: with the job of the live state. -/
theorem answerUpdate_ensures {order : LifecycleDispatch.UpdateOrder} {e : Attempt} {w : World}
    {Q : Outcome Failure LifecycleDispatch.CompletionBody → World → Prop}
    (refused : ∀ o, Unfinished o → Q o w)
    (ran : ∀ state job o run, w.state = some state →
      LifecycleDispatch.validateBackupPrecondition order.backupPrecondition w.backup e.now = .ok () →
      LifecycleDispatch.updateJob order state = .ok job →
      (∀ operation ∈ job.appliedMigrationOperationId, operation = job.operationId) →
      runUpdate job e ⟨w, freshSteps job⟩ = (o, run) → Ran job e ⟨w, freshSteps job⟩ o run →
        Ensures (concludeUpdate job run.performed o) e (fun o w' => match o with
          | .ok execution => Q (.ok (LifecycleDispatch.completionOfUpdate execution)) w'
          | .error x => Q (.error x) w'
          | .crashed => Q .crashed w') run.world) :
    Ensures (LifecycleDispatch.answerUpdate order) e Q w := by
  unfold LifecycleDispatch.answerUpdate LifecycleDispatch.loadState
  simp only [ensures_bind, ensures_perform, ensures_get, after_ok, after_error, after_crashed]
  refine ⟨fun _ => ?_, fun d _ => refused _ (unfinished_error _),
    fun _ => refused _ unfinished_crashed⟩
  cases present : w.state with
  | none => exact refused _ (unfinished_error _)
  | some state =>
    simp only [ensures_pure, after_ok, ensures_bind, ensures_environment, ensures_get,
      ensures_ofExcept, after_error]
    refine ⟨fun _ precondition => ⟨fun job built => ?_, fun x _ => refused _ (unfinished_error x)⟩,
      fun x _ => refused _ (unfinished_error x)⟩
    apply executeUpdate_ensures
    · exact fun x _ _ => refused _ (unfinished_error x)
    · intro o run own reached relation
      apply (ran state job o run present precondition built own reached relation).mono
      intro o w' h
      cases o <;> exact h

end NazoAuthCtl.UpdateSteps
