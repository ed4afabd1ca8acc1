import NazoAuthCtl.RollbackResume

/-!
# Re-executing an order after crashes

An update or a rollback is pending while its attempts are cut off, and it is
executed again until an attempt ends. The world each attempt finds decides whether
the order still ends as if it had never been cut off: the runtime must not have
been replaced yet, as far as inspection can tell.
-/

set_option autoImplicit false
set_option linter.all false

namespace NazoAuthCtl.CrashResume

open FaultProgram TargetState TargetWorld UpdateExec LifecycleDispatch UpdateReplay UpdateResume
  RollbackResume

inductive LifecycleOrder where
  | update (order : UpdateOrder)
  | rollback (order : RollbackOrder)
  deriving DecidableEq, Repr

namespace LifecycleOrder

def answer : LifecycleOrder → Exec CompletionBody
  | .update order => answerUpdate order
  | .rollback order => answerRollback order

/-- One attempt of the order whose run was cut off between two effects. -/
def Cut : LifecycleOrder → Attempt → World → World → Prop
  | .update order => UpdateCut order
  | .rollback order => RollbackCut order

/-- The attempt finds a world from which the order can be resumed: inspection still
reports the runtime that was there when the order was accepted, running or not, no
config has appeared where there was none, the backup evidence of an update still
passes, and a container to roll back is stopped. -/
def Resumable (kind : RuntimeBackendKind) (w₀ : World) : LifecycleOrder → Attempt → World → Prop
  | .update order, e, w => UpdateResume.Resumable e.platform kind w₀ w ∧
      validateBackupPrecondition order.backupPrecondition w.backup e.now = .ok ()
  | .rollback _, e, w => RollbackResumable e.platform kind w₀ w

/-- Cut-off attempts one after the other, each begun in a resumable world. -/
def Interrupted (order : LifecycleOrder) (kind : RuntimeBackendKind) (e₀ : Attempt) (w₀ : World) :
    World → Prop :=
  Relation.ReflTransGen (fun w w' => ∃ e : Attempt, e.platform = e₀.platform ∧
    e.oneShot = e₀.oneShot ∧ order.Resumable kind w₀ e w ∧ order.Cut e w w') w₀

end LifecycleOrder

/-- An order that completes when it is not interrupted completes with the same
document, config and runtime after any number of crashes, when each execution of it
begins in a resumable world. -/
theorem interrupted_order_completes (order : LifecycleOrder) (e₀ e : Attempt) (w₀ w : World)
    (state : DeploymentState) (completion : CompletionBody) (loaded : w₀.state = some state)
    (unfenced : state.appliedMigration = none) (clean₀ : e₀.clean)
    (answered : (order.answer e₀ w₀).1 = .ok completion) (completes : completion.completes)
    (reversible : ¬completion.irreversible)
    (cuts : order.Interrupted state.runtime.kind e₀ w₀ w) (clean : e.clean)
    (platform : e.platform = e₀.platform) (server : e.oneShot = e₀.oneShot)
    (resumable : order.Resumable state.runtime.kind w₀ e w) :
    (order.answer e w).1 = .ok completion ∧
      SameEnd (order.answer e₀ w₀).2 (order.answer e w).2 := by
  cases order with
  | update order =>
    obtain ⟨resumable, precondition⟩ := resumable
    rw [platform] at resumable
    refine update_resumed clean₀ clean platform server loaded unfenced answered completes reversible
      ?_ resumable precondition
    refine Relation.ReflTransGen.mono ?_ _ _ cuts
    rintro w₁ w₂ ⟨e', platform', server', ⟨resumable', -⟩, cut⟩
    rw [platform'] at resumable'
    exact ⟨resumable', e', platform', server', cut⟩
  | rollback order =>
    have resumable : RollbackResumable e.platform state.runtime.kind w₀ w := resumable
    rw [platform] at resumable
    refine rollback_resumed clean platform loaded answered ?_ resumable
    refine Relation.ReflTransGen.mono ?_ _ _ cuts
    rintro w₁ w₂ ⟨e', platform', -, resumable', cut⟩
    have resumable' : RollbackResumable e'.platform state.runtime.kind w₀ w₁ := resumable'
    rw [platform'] at resumable'
    exact ⟨resumable', e', platform', cut⟩

def cutAt (platform : Platform) (label : Effect) : Attempt :=
  { undisturbed platform with faults := fun l => if l = label then .crash else .none }

/-- The job of the sample update on a backend. -/
def deployedJob (kind : RuntimeBackendKind) (config : Option StagedConfig) : UpdateJob :=
  orderedJob (updateOrder config) (deployedState kind) 10 ["var", "secrets"]

/-- The sample deployment after an attempt of the sample update was cut off. -/
def cutOff (kind : RuntimeBackendKind) (config : Option StagedConfig) (label : Effect) : World :=
  (runUpdate (deployedJob kind config) (cutAt twoReleases label)
    ⟨deployed kind, freshSteps (deployedJob kind config)⟩).2.world

/-- An update of a container whose first attempt had stopped it. -/
theorem interrupted_update_completes :
    (answerUpdate (updateOrder none) (undisturbed twoReleases)
        (cutOff .podman none (.inspectSource .change))).1 = .ok (.stateMutateApplied 4 none) ∧
      SameEnd (answerUpdate (updateOrder none) (undisturbed twoReleases) (deployed .podman)).2
        (answerUpdate (updateOrder none) (undisturbed twoReleases)
          (cutOff .podman none (.inspectSource .change))).2 :=
  interrupted_order_completes (.update (updateOrder none)) (undisturbed twoReleases)
    (undisturbed twoReleases) (deployed .podman) (cutOff .podman none (.inspectSource .change))
    (deployedState .podman) (.stateMutateApplied 4 none) rfl rfl (fun _ => rfl) (by decide) trivial
    id
    (.single ⟨cutAt twoReleases (.inspectSource .change), rfl, rfl, ⟨⟨rfl, id⟩, rfl⟩,
      _, _, _, rfl, rfl, Prod.ext (by decide) rfl, rfl⟩)
    (fun _ => rfl) rfl rfl ⟨⟨by decide, by decide⟩, rfl⟩

/-- Cut off between the replacement and the commit, the update of a unit is refused when
it is executed again, and that of a container forgets the generation it replaced. -/
theorem interrupted_updates_not_resumed :
    (answerUpdate (updateOrder none) (undisturbed twoReleases) (deployed .host)).1 =
        .ok (.stateMutateApplied 4 none) ∧
      UpdateCut (updateOrder none) (cutAt twoReleases .commitState) (deployed .host)
        (cutOff .host none .commitState) ∧
      (undisturbed twoReleases).clean ∧
      (∃ detail, (answerUpdate (updateOrder none) (undisturbed twoReleases)
        (cutOff .host none .commitState)).1 = .error ⟨.objectIdentityMismatch, detail⟩) ∧
      UpdateCut (updateOrder none) (cutAt twoReleases .commitState) (deployed .podman)
        (cutOff .podman none .commitState) ∧
      ((answerUpdate (updateOrder none) (undisturbed twoReleases) (deployed .podman)).2.state.map
        (·.artifact)) = some ⟨some 11, some 10⟩ ∧
      ((answerUpdate (updateOrder none) (undisturbed twoReleases)
        (cutOff .podman none .commitState)).2.state.map (·.artifact)) = some ⟨some 11, none⟩ := by
  refine ⟨by decide, ⟨_, _, _, rfl, rfl, Prod.ext (by decide) rfl, rfl⟩, fun _ => rfl, ⟨_, rfl⟩,
    ⟨_, _, _, rfl, rfl, Prod.ext (by decide) rfl, rfl⟩, by decide, by decide⟩

end NazoAuthCtl.CrashResume
