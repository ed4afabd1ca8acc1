import NazoAuthCtl.ControllerBinding

/-!
# Whether an unfinished enrollment can be taken up again

A pending record is only of use while the key it names is stored and while its flow lets the
record decide. Each flow is rerun here with everything on its side: the administrator
approves, the secret is delivered and the server takes what is submitted.
-/

set_option autoImplicit false
set_option linter.all false

namespace NazoAuthCtl.ControllerResume
open CallFlow.Flow (exec_bind exec_call exec_done exec_bind_ok exec_bind_error exec_ofExcept
  exec_require_true exec_require_false exec_pure exec_monad_pure exec_fail ofExcept require fail)
open ControllerStore ControllerWorld ControllerFlows ControllerBinding

variable {protocol : RecoveryProtocol} {c : Circumstances} {w : World}

/-- The world as the next process finds it. -/
def idle (w : World) : World := { w with held := [] }

def locked (lock : LockFile) (w : World) : World := { w with held := [lock] }

theorem acquire_idle (lock : LockFile) :
    (perform (.acquire lock)).exec (World.calm c) (idle w) = (.ok (), locked lock w) := rfl

theorem listSlots_locked (lock : LockFile) :
    (perform .listSlots).exec (World.calm c) (locked lock w) =
      (.ok w.server.snapshot, locked lock w) := rfl

/-! ## The shared tail -/

def activated (w : World) (kid : Kid) (slot : ControllerSlotView) : World :=
  { w.bound (some slot.controllerId) (some (controllerKeyRefFor w.record.deploymentId)) with
    store := { w.store with active := some kid } }

theorem finishActivation_stored {kid : Kid} (slot : ControllerSlotView)
    (stored : w.store.Stored kid) :
    ∃ report, (finishActivation w.record kid slot).exec (World.calm c) w =
      (.ok report, activated w kid slot) := by
  unfold finishActivation
  simp only [persistBindingFields, exec_bind, perform_call, exec_call, exec_done, World.calm,
    World.perform, World.onStore, World.bound, Store.setActiveKid_stored stored]
  exact ⟨_, rfl⟩

theorem verifyCommittedSlot_ok {slot : ControllerSlotView} {deploymentId : DeploymentId} {kid : Kid}
    {action : String} :
    verifyCommittedSlot slot deploymentId kid action = .ok () ↔
      slot.deploymentId = deploymentId ∧ slot.kid = kid ∧ slot.status = .active := by
  unfold verifyCommittedSlot
  split
  · rename_i unexpected
    refine iff_of_false (fun same => nomatch same) ?_
    rintro ⟨deployment, kid, active⟩
    simp [deployment, kid, active] at unexpected
  · rename_i expected
    simp only [not_or, not_not] at expected
    exact iff_of_true rfl expected

/-! ## Bind -/

abbrev bindBody (w : World) (label : String) (key : KeyRecord) (material : RecoveryMaterial)
    (token : String) : SlotCommitBody :=
  ⟨token, "bind", w.record.deploymentId, label, key.publicKey, key.kid, some material.publicKey,
    some material.kid⟩

def bindCommitted (c : Circumstances) (w : World) (label : String) (key : KeyRecord)
    (material : RecoveryMaterial) : World :=
  let body := bindBody w label key material c.token
  let w' := activated { w with server := w.server.commitSlot c.assigned body } key.kid
    (Server.committed c.assigned body)
  { w' with store := { w'.store with pendingBind := none } }

theorem bindCommit_exec (taken : c.verdict = .taken) (label : String) {key : KeyRecord}
    (material : RecoveryMaterial) (stored : w.store.Stored key.kid) :
    ∃ report, (bindCommit w.record label key material).exec (World.calm c) w =
      (.ok report, bindCommitted c w label key material) := by
  have verified : verifyCommittedSlot
      (Server.committed c.assigned (bindBody w label key material c.token))
      w.record.deploymentId key.kid "bind" = .ok () :=
    verifyCommittedSlot_ok.mpr ⟨rfl, rfl, rfl⟩
  obtain ⟨report, finished⟩ := @finishActivation_stored c
    { w with server := w.server.commitSlot c.assigned (bindBody w label key material c.token) }
    key.kid (Server.committed c.assigned (bindBody w label key material c.token)) stored
  unfold bindCommit
  simp only [exec_bind, perform_call, exec_call, exec_done, World.calm, World.perform, World.ask,
    World.submit, taken, exec_ofExcept, verified, finished]
  exact ⟨report, rfl⟩

/-- The slot of the key is active, and it is the one that the machine is bound to. -/
def Enrolled (w : World) (kid : Kid) : Prop :=
  ∃ slot ∈ w.server.snapshot.activeSlots, slot.kid = kid ∧
    w.record.controllerId = some slot.controllerId ∧ w.store.active = some kid ∧
    w.store.Stored kid

/-- How the rerun of a flow can end so that its record does not stand in the way: the recorded
proposal is committed under the recorded key and root, its committed slot is adopted, or the
record is gone. -/
inductive Resumed {α : Type} (w : World) (kid : Kid) (root : Option String)
    (Cleared : Store → Prop) : Except Failure α × World → Prop where
  | committed (a : α) (w' : World) (enrolled : Enrolled w' kid)
    (rooted : w'.server.recoveryRoot = root) : Resumed w kid root Cleared (.ok a, w')
  | adopted (a : α) (w' : World) (server : w'.server = w.server) (enrolled : Enrolled w' kid) :
    Resumed w kid root Cleared (.ok a, w')
  | removed (r : Except Failure α) (w' : World) (server : w'.server = w.server)
    (cleared : Cleared w'.store) : Resumed w kid root Cleared (r, w')

theorem not_resumed_error {α : Type} {kid : Kid} {root : Option String} {Cleared : Store → Prop}
    {e : Failure} {w' : World} (kept : ¬ Cleared w'.store) :
    ¬ Resumed w kid root Cleared ((.error e, w') : Except Failure α × World) := by
  intro resumed
  cases resumed with
  | removed _ _ _ cleared => exact kept cleared

def Proposable (protocol : RecoveryProtocol) (w : World) (pending : PendingBindRecovery) : Prop :=
  (w.server.snapshot.activeSlots = [] ∧ w.record.controllerId = none) ∧
    BindFits pending w.record.deploymentId ∧
    ¬ SlotsSnapshot.lists w.server.snapshot pending.controllerKid ∧
    w.store.Stored pending.controllerKid ∧
    ∃ material, materialFromDisplay protocol w.record.deploymentId pending.recoverySecret =
      .ok material

theorem loadPendingBind_exec {pending : PendingBindRecovery}
    (recorded : w.store.pendingBind = some pending) (fits : BindFits pending w.record.deploymentId) :
    (loadPendingBindRecovery w.record.deploymentId).exec (World.calm c) w =
      (.ok (some pending), w) := by
  unfold loadPendingBindRecovery
  simp only [exec_bind, perform_call, exec_call, exec_done, World.calm, World.perform, recorded]
  rw [exec_require_true _ _ _ fits]
  rfl

theorem loadPendingBind_unfit {pending : PendingBindRecovery}
    (recorded : w.store.pendingBind = some pending)
    (unfit : ¬ BindFits pending w.record.deploymentId) :
    ∃ e, (loadPendingBindRecovery w.record.deploymentId).exec (World.calm c) w = (.error e, w) := by
  unfold loadPendingBindRecovery
  simp only [exec_bind, perform_call, exec_call, exec_done, World.calm, World.perform, recorded]
  rw [exec_require_false _ _ _ unfit]
  exact ⟨_, rfl⟩

theorem publicKey_stored {store : Store} {kid : Kid} (stored : store.Stored kid) :
    ∃ publicKey, store.publicKey kid = .ok publicKey := by
  obtain ⟨record, -, -, read⟩ := Store.readKeyRecord_stored stored
  exact ⟨record.publicKey, by simp [Store.publicKey, read, Except.map]⟩

theorem publicKey_missing {store : Store} {kid : Kid} (missing : ¬ store.Stored kid) :
    ∃ e, store.publicKey kid = .error e := by
  obtain ⟨e, read⟩ := Store.readKeyRecord_missing missing
  exact ⟨e, by simp [Store.publicKey, read, Except.map]⟩

theorem bindKey_exec {pending : PendingBindRecovery}
    (unlisted : ¬ SlotsSnapshot.lists w.server.snapshot pending.controllerKid)
    (stored : w.store.Stored pending.controllerKid) :
    ∃ publicKey, (bindKey pending.label w.server.snapshot (some pending)).exec (World.calm c) w =
      (.ok ⟨pending.controllerKid, publicKey⟩, w) := by
  obtain ⟨publicKey, read⟩ := publicKey_stored stored
  unfold bindKey
  rw [exec_bind_ok _ (exec_require_true _ _ _ rfl),
    exec_bind_ok _ (exec_require_true _ _ _ unlisted)]
  simp only [exec_bind, perform_call, exec_call, exec_done, World.calm, World.perform, read]
  exact ⟨publicKey, rfl⟩

theorem bindKey_stuck {pending : PendingBindRecovery}
    (stuck : ¬ (¬ SlotsSnapshot.lists w.server.snapshot pending.controllerKid ∧
      w.store.Stored pending.controllerKid)) :
    ∃ e, (bindKey pending.label w.server.snapshot (some pending)).exec (World.calm c) w =
      (.error e, w) := by
  unfold bindKey
  rw [exec_bind_ok _ (exec_require_true _ _ _ rfl)]
  by_cases unlisted : ¬ SlotsSnapshot.lists w.server.snapshot pending.controllerKid
  · obtain ⟨e, read⟩ := publicKey_missing fun stored => stuck ⟨unlisted, stored⟩
    rw [exec_bind_ok _ (exec_require_true _ _ _ unlisted)]
    simp only [exec_bind, perform_call, exec_call, exec_done, World.calm, World.perform, read]
    exact ⟨e, rfl⟩
  · rw [exec_bind_error _ (exec_require_false _ _ _ unlisted)]
    exact ⟨_, rfl⟩

theorem bindPropose_exec (taken : c.verdict = .taken) {pending : PendingBindRecovery}
    (recorded : w.store.pendingBind = some pending) (proposable : Proposable protocol w pending) :
    ∃ report publicKey material,
      materialFromDisplay protocol w.record.deploymentId pending.recoverySecret = .ok material ∧
      (bindPropose protocol w.record pending.label w.server.snapshot).exec (World.calm c) w =
        (.ok report, bindCommitted c w pending.label ⟨pending.controllerKid, publicKey⟩ material) := by
  obtain ⟨admitted, fits, unlisted, stored, material, parsed⟩ := proposable
  obtain ⟨publicKey, key⟩ := @bindKey_exec c w pending unlisted stored
  obtain ⟨report, committed⟩ := @bindCommit_exec c w taken pending.label
    ⟨pending.controllerKid, publicKey⟩ material stored
  have derived : (bindMaterial protocol w.record pending.label pending.controllerKid
      (some pending)).exec (World.calm c) w = (.ok material, w) := by
    show (materialFromDisplay protocol w.record.deploymentId pending.recoverySecret, w) = _
    rw [parsed]
  refine ⟨report, publicKey, material, parsed, ?_⟩
  unfold bindPropose
  rw [exec_bind_ok _ (exec_require_true _ _ _ admitted),
    exec_bind_ok _ (loadPendingBind_exec recorded fits), exec_bind_ok _ key,
    exec_bind_ok _ derived, committed]

theorem bindPropose_stuck {pending : PendingBindRecovery}
    (recorded : w.store.pendingBind = some pending) (stuck : ¬ Proposable protocol w pending) :
    ∃ e, (bindPropose protocol w.record pending.label w.server.snapshot).exec (World.calm c) w =
      (.error e, w) := by
  unfold bindPropose
  by_cases admitted : w.server.snapshot.activeSlots = [] ∧ w.record.controllerId = none
  · rw [exec_bind_ok _ (exec_require_true _ _ _ admitted)]
    by_cases fits : BindFits pending w.record.deploymentId
    · rw [exec_bind_ok _ (loadPendingBind_exec recorded fits)]
      by_cases usable : ¬ SlotsSnapshot.lists w.server.snapshot pending.controllerKid ∧
          w.store.Stored pending.controllerKid
      · obtain ⟨publicKey, key⟩ := @bindKey_exec c w pending usable.1 usable.2
        rw [exec_bind_ok _ key]
        cases parsed : materialFromDisplay protocol w.record.deploymentId pending.recoverySecret with
        | ok material => exact absurd ⟨admitted, fits, usable.1, usable.2, material, parsed⟩ stuck
        | error e =>
          have underived : (bindMaterial protocol w.record pending.label pending.controllerKid
              (some pending)).exec (World.calm c) w = (.error e, w) := by
            show (materialFromDisplay protocol w.record.deploymentId pending.recoverySecret, w) = _
            rw [parsed]
          rw [exec_bind_error _ underived]
          exact ⟨e, rfl⟩
      · obtain ⟨e, key⟩ := @bindKey_stuck c w pending usable
        rw [exec_bind_error _ key]
        exact ⟨e, rfl⟩
    · obtain ⟨e, unfit⟩ := @loadPendingBind_unfit c w pending recorded fits
      rw [exec_bind_error _ unfit]
      exact ⟨e, rfl⟩
  · rw [exec_bind_error _ (exec_require_false _ _ _ admitted)]
    exact ⟨_, rfl⟩


def rerunBind (protocol : RecoveryProtocol) (c : Circumstances) (w : World) (label : String) :
    Except Failure String × World :=
  (bindFlow protocol w.record label).exec (World.calm c) (idle w)

/-- Reconciliation has something to report. -/
def Reconcilable (w : World) : Prop :=
  match ownSlot w.record (localKids w) w.server.snapshot with
  | some slot => needsPointer w.store.active slot ∨ needsFields w.record slot
  | none => ∃ id ∈ w.record.controllerId,
      ∀ slot ∈ w.server.snapshot.activeSlots, slot.controllerId ≠ id

def BindResumable (protocol : RecoveryProtocol) (w : World) (pending : PendingBindRecovery) : Prop :=
  validateLabel pending.label = .ok () ∧ w.store.Loadable ∧
    (Reconcilable w ∨ Proposable protocol w pending)

def BindResumed (protocol : RecoveryProtocol) (w : World) (pending : PendingBindRecovery) :
    Except Failure String × World → Prop :=
  Resumed w pending.controllerKid
    ((materialFromDisplay protocol w.record.deploymentId pending.recoverySecret).toOption.map
      (·.publicKey))
    (·.pendingBind = none)

theorem rerunBind_failed {label : String} {e : Failure} {w' : World}
    (valid : validateLabel label = .ok ())
    (run : reconcile c (locked .bind w) w.server.snapshot = (.error e, w')) :
    rerunBind protocol c w label = (.error e, w') := by
  have run' : (reconcileFromSnapshot w.record w.server.snapshot).exec (World.calm c)
      (locked .bind w) = _ := run
  unfold rerunBind bindFlow
  rw [valid, exec_bind_ok _ (exec_ofExcept _ _ _), exec_bind_ok _ (acquire_idle .bind),
    exec_bind_ok _ (listSlots_locked .bind), exec_bind_error _ run']

theorem rerunBind_reported {label report : String} {w' : World}
    (valid : validateLabel label = .ok ())
    (run : reconcile c (locked .bind w) w.server.snapshot = (.ok (some report), w')) :
    ∃ text, rerunBind protocol c w label =
      (.ok text, { w' with store := { w'.store with pendingBind := none } }) := by
  have run' : (reconcileFromSnapshot w.record w.server.snapshot).exec (World.calm c)
      (locked .bind w) = _ := run
  unfold rerunBind bindFlow
  rw [valid, exec_bind_ok _ (exec_ofExcept _ _ _), exec_bind_ok _ (acquire_idle .bind),
    exec_bind_ok _ (listSlots_locked .bind), exec_bind_ok _ run']
  exact ⟨_, rfl⟩

theorem rerunBind_silent {label : String} {w' : World}
    (valid : validateLabel label = .ok ())
    (run : reconcile c (locked .bind w) w.server.snapshot = (.ok none, w')) :
    rerunBind protocol c w label =
      (bindPropose protocol w.record label w.server.snapshot).exec (World.calm c) w' := by
  have run' : (reconcileFromSnapshot w.record w.server.snapshot).exec (World.calm c)
      (locked .bind w) = _ := run
  unfold rerunBind bindFlow
  rw [valid, exec_bind_ok _ (exec_ofExcept _ _ _), exec_bind_ok _ (acquire_idle .bind),
    exec_bind_ok _ (listSlots_locked .bind), exec_bind_ok _ run']

theorem bindCommitted_enrolled {label : String} {key : KeyRecord}
    {material : RecoveryMaterial} (stored : w.store.Stored key.kid) :
    Enrolled (bindCommitted c w label key material) key.kid := by
  refine ⟨Server.committed c.assigned (bindBody w label key material c.token), ?_, rfl, rfl, rfl, stored⟩
  apply List.mem_filter.mpr
  exact ⟨List.mem_append_right _ (List.mem_singleton.mpr rfl), rfl⟩

/-- A machine that has adopted a slot is not asked to bind. -/
theorem bindPropose_refused {slot : ControllerSlotView} {label : String} {w' : World}
    (active : slot ∈ w.server.snapshot.activeSlots) :
    ∃ e, (bindPropose protocol w.record label w.server.snapshot).exec (World.calm c) w' =
      (.error e, w') := by
  have refused : ¬ (w.server.snapshot.activeSlots = [] ∧ w.record.controllerId = none) := by
    rintro ⟨empty, -⟩
    rw [empty] at active
    cases active
  unfold bindPropose
  rw [exec_bind_error _ (exec_require_false _ _ _ refused)]
  exact ⟨_, rfl⟩

theorem bind_resumed_iff (taken : c.verdict = .taken) {pending : PendingBindRecovery}
    (recorded : w.store.pendingBind = some pending) :
    BindResumed protocol w pending (rerunBind protocol c w pending.label) ↔
      BindResumable protocol w pending := by
  have kept : w.store.pendingBind ≠ none := by simp [recorded]
  by_cases valid : validateLabel pending.label = .ok ()
  · cases reconciled c (locked .bind w) w.server.snapshot with
    | unreadable e unreadable run =>
      rw [rerunBind_failed valid run]
      exact iff_of_false (not_resumed_error kept) fun resumable => unreadable resumable.2.1
    | adopts slot report loadable own run nothing =>
      have own' : ownSlot w.record (localKids w) w.server.snapshot = some slot := own
      have active := (mem_ownSlots.mp (ownSlot_mem own')).1
      cases report with
      | some report =>
        obtain ⟨text, done⟩ := @rerunBind_reported protocol c w _ _ _ valid run
        rw [done]
        refine iff_of_true (.removed _ _ rfl rfl) ⟨valid, loadable, .inl ?_⟩
        unfold Reconcilable
        rw [own']
        by_contra settled
        exact nomatch nothing.mpr (not_or.mp settled)
      | none =>
        obtain ⟨e, refused⟩ := @bindPropose_refused protocol c w _ pending.label
          (adopted (locked .bind w) w.server.snapshot slot) active
        rw [rerunBind_silent valid run, refused]
        refine iff_of_false (not_resumed_error kept) ?_
        rintro ⟨-, -, reconcilable | proposable⟩
        · unfold Reconcilable at reconcilable
          rw [own'] at reconcilable
          exact not_or.mpr (nothing.mp rfl) reconcilable
        · rw [proposable.1.1] at active
          cases active
    | drops id report loadable own named gone run =>
      have own' : ownSlot w.record (localKids w) w.server.snapshot = none := own
      obtain ⟨text, done⟩ := @rerunBind_reported protocol c w _ _ _ valid run
      rw [done]
      refine iff_of_true (.removed _ _ rfl rfl) ⟨valid, loadable, .inl ?_⟩
      unfold Reconcilable
      rw [own']
      exact ⟨id, named, gone⟩
    | leaves loadable own present run =>
      have own' : ownSlot w.record (localKids w) w.server.snapshot = none := own
      rw [rerunBind_silent valid run]
      by_cases proposable : Proposable protocol w pending
      · obtain ⟨report, publicKey, material, parsed, done⟩ :=
          @bindPropose_exec protocol c (locked .bind w) taken pending recorded proposable
        have committed := @bindCommitted_enrolled c (locked .bind w) pending.label
          ⟨pending.controllerKid, publicKey⟩ material proposable.2.2.2.1
        refine iff_of_true ?_ ⟨valid, loadable, .inr proposable⟩
        have done' : (bindPropose protocol w.record pending.label w.server.snapshot).exec
            (World.calm c) (locked .bind w) = _ := done
        rw [done']
        have parsed' : materialFromDisplay protocol w.record.deploymentId pending.recoverySecret =
          .ok material := parsed
        refine .committed _ _ committed ?_
        rw [parsed']
        rfl
      · obtain ⟨e, stuck⟩ := @bindPropose_stuck protocol c (locked .bind w) pending recorded proposable
        have stuck' : (bindPropose protocol w.record pending.label w.server.snapshot).exec
            (World.calm c) (locked .bind w) = _ := stuck
        rw [stuck']
        refine iff_of_false (not_resumed_error kept) ?_
        rintro ⟨-, -, reconcilable | proposes⟩
        · unfold Reconcilable at reconcilable
          rw [own'] at reconcilable
          obtain ⟨id, named, gone⟩ := reconcilable
          obtain ⟨slot, active, same⟩ := present id named
          exact gone slot active same
        · exact proposable proposes
  · have invalid : ∃ e, rerunBind protocol c w pending.label = (.error e, idle w) := by
      cases labelled : validateLabel pending.label with
      | ok _ => exact absurd labelled valid
      | error e =>
        refine ⟨e, ?_⟩
        unfold rerunBind bindFlow
        rw [labelled, exec_bind_error _ (exec_ofExcept _ _ _)]
    obtain ⟨e, done⟩ := invalid
    rw [done]
    exact iff_of_false (not_resumed_error kept) fun resumable => valid resumable.1


/-! ## Add -/

abbrev addBody (w : World) (label : String) (key : KeyRecord) (token : String) : SlotCommitBody :=
  ⟨token, "add", w.record.deploymentId, label, key.publicKey, key.kid, none, none⟩

def addCommitted (c : Circumstances) (w : World) (label : String) (key : KeyRecord) : World :=
  let body := addBody w label key c.token
  let w' := activated { w with server := w.server.commitSlot c.assigned body } key.kid
    (Server.committed c.assigned body)
  { w' with store := { w'.store with pendingAdd := none } }

theorem addCommit_exec (taken : c.verdict = .taken) (label : String) {key : KeyRecord}
    (stored : w.store.Stored key.kid) :
    ∃ report, (addCommit w.record label key).exec (World.calm c) w =
      (.ok report, addCommitted c w label key) := by
  have verified : verifyCommittedSlot
      (Server.committed c.assigned (addBody w label key c.token))
      w.record.deploymentId key.kid "add" = .ok () :=
    verifyCommittedSlot_ok.mpr ⟨rfl, rfl, rfl⟩
  obtain ⟨report, finished⟩ := @finishActivation_stored c
    { w with
      store := { w.store with pendingAdd := some ⟨w.record.deploymentId, key.kid, label⟩ }
      server := w.server.commitSlot c.assigned (addBody w label key c.token) }
    key.kid (Server.committed c.assigned (addBody w label key c.token)) stored
  unfold addCommit
  simp only [exec_bind, perform_call, exec_call, exec_done, World.calm, World.perform, World.ask,
    World.submit, taken, exec_ofExcept, verified, finished]
  exact ⟨_, rfl⟩

theorem addCommitted_enrolled {label : String} {key : KeyRecord} (stored : w.store.Stored key.kid) :
    Enrolled (addCommitted c w label key) key.kid := by
  refine ⟨Server.committed c.assigned (addBody w label key c.token), ?_, rfl, rfl, rfl, stored⟩
  apply List.mem_filter.mpr
  exact ⟨List.mem_append_right _ (List.mem_singleton.mpr rfl), rfl⟩

def rerunAdd (c : Circumstances) (w : World) (label : String) : Except Failure String × World :=
  (addFlow w.record label).exec (World.calm c) (idle w)

/-- The record passes its own checks. -/
def AddLoads (w : World) (pending : PendingAdd) : Prop :=
  pending.deploymentId = w.record.deploymentId ∧ validateLabel pending.label = .ok () ∧
    w.store.Stored pending.kid

/-- Where the server does not list the key, only a reconciliation that leaves everything as it
is leaves the key. -/
def AddOpen (w : World) : Prop :=
  w.store.Loadable ∧ ownSlot w.record (localKids w) w.server.snapshot = none ∧ ¬ Reconcilable w ∧
    w.server.snapshot.activeSlots.length < w.server.snapshot.maxActiveSlots

def AddResumable (w : World) (pending : PendingAdd) : Prop :=
  w.record.controllerId ≠ none ∧ AddLoads w pending ∧
    match w.server.snapshot.items.find? (·.kid = pending.kid) with
    | some slot => slot.deploymentId = w.record.deploymentId ∧ slot.status = .active
    | none => AddOpen w

def AddResumed (w : World) (pending : PendingAdd) : Except Failure String × World → Prop :=
  Resumed w pending.kid w.server.recoveryRoot (·.pendingAdd = none)

theorem loadPendingAdd_exec {pending : PendingAdd} (recorded : w.store.pendingAdd = some pending)
    (loads : AddLoads w pending) :
    (loadPendingAdd w.record.deploymentId).exec (World.calm c) w = (.ok (some pending), w) := by
  obtain ⟨deployment, valid, stored⟩ := loads
  obtain ⟨publicKey, read⟩ := publicKey_stored stored
  unfold loadPendingAdd
  simp only [exec_bind, perform_call, exec_call, exec_done, World.calm, World.perform, recorded]
  rw [exec_require_true _ _ _ deployment]
  simp only [exec_ofExcept, valid, read, exec_monad_pure]

theorem loadPendingAdd_fails {pending : PendingAdd} (recorded : w.store.pendingAdd = some pending)
    (fails : ¬ AddLoads w pending) :
    ∃ e, (loadPendingAdd w.record.deploymentId).exec (World.calm c) w = (.error e, w) := by
  unfold loadPendingAdd
  simp only [exec_bind, perform_call, exec_call, exec_done, World.calm, World.perform, recorded]
  by_cases deployment : pending.deploymentId = w.record.deploymentId
  · rw [exec_require_true _ _ _ deployment]
    cases valid : validateLabel pending.label with
    | error e => exact ⟨e, rfl⟩
    | ok _ =>
      obtain ⟨e, read⟩ := publicKey_missing fun stored => fails ⟨deployment, valid, stored⟩
      simp only [exec_ofExcept, read]
      exact ⟨e, rfl⟩
  · rw [exec_require_false _ _ _ deployment]
    exact ⟨_, rfl⟩

theorem addAdopt_exec {pending : PendingAdd} {slot : ControllerSlotView}
    (stored : w.store.Stored pending.kid) (kid : slot.kid = pending.kid)
    (live : slot.deploymentId = w.record.deploymentId ∧ slot.status = .active) :
    ∃ report, (addAdopt w.record pending slot).exec (World.calm c) w =
      (.ok report, { activated w pending.kid slot with
        store := { (activated w pending.kid slot).store with pendingAdd := none } }) := by
  have verified : verifyCommittedSlot slot w.record.deploymentId pending.kid "add" = .ok () :=
    verifyCommittedSlot_ok.mpr ⟨live.1, kid, live.2⟩
  obtain ⟨report, finished⟩ := @finishActivation_stored c w pending.kid slot stored
  unfold addAdopt
  simp only [exec_bind, perform_call, exec_call, exec_done, World.calm, World.perform,
    exec_ofExcept, verified, finished]
  exact ⟨report, rfl⟩

theorem addAdopt_refused {pending : PendingAdd} {slot : ControllerSlotView}
    (dead : ¬ (slot.deploymentId = w.record.deploymentId ∧ slot.status = .active)) :
    ∃ e, (addAdopt w.record pending slot).exec (World.calm c) w = (.error e, w) := by
  unfold addAdopt
  cases verified : verifyCommittedSlot slot w.record.deploymentId pending.kid "add" with
  | error e =>
    rw [exec_bind_error _ (exec_ofExcept _ _ _)]
    exact ⟨e, rfl⟩
  | ok _ =>
    obtain ⟨deployment, -, active⟩ := verifyCommittedSlot_ok.mp verified
    exact absurd ⟨deployment, active⟩ dead

theorem addPropose_exec (taken : c.verdict = .taken) {pending : PendingAdd}
    (stored : w.store.Stored pending.kid)
    (free : w.server.snapshot.activeSlots.length < w.server.snapshot.maxActiveSlots) :
    ∃ report publicKey,
      (addPropose w.record pending.label w.server.snapshot (some pending)).exec (World.calm c) w =
        (.ok report, addCommitted c w pending.label ⟨pending.kid, publicKey⟩) := by
  obtain ⟨publicKey, read⟩ := publicKey_stored stored
  have key : (addKey w.server.snapshot (some pending)).exec (World.calm c) w =
      (.ok ⟨pending.kid, publicKey⟩, w) := by
    unfold addKey
    simp only [exec_bind, perform_call, exec_call, exec_done, World.calm, World.perform, read]
    rfl
  obtain ⟨report, committed⟩ := @addCommit_exec c w taken pending.label ⟨pending.kid, publicKey⟩ stored
  refine ⟨report, publicKey, ?_⟩
  unfold addPropose
  rw [exec_bind_ok _ (exec_require_true _ _ _ free), exec_bind_ok _ key, committed]

/-- Neither a full board nor a missing key lets a proposal through. -/
theorem addPropose_stuck {pending : PendingAdd} {record : InstanceRecord} {snapshot : SlotsSnapshot}
    (stuck : ¬ (snapshot.activeSlots.length < snapshot.maxActiveSlots ∧
      w.store.Stored pending.kid)) :
    ∃ e, (addPropose record pending.label snapshot (some pending)).exec (World.calm c) w =
      (.error e, w) := by
  unfold addPropose
  by_cases free : snapshot.activeSlots.length < snapshot.maxActiveSlots
  · obtain ⟨e, read⟩ := publicKey_missing fun stored => stuck ⟨free, stored⟩
    have key : (addKey snapshot (some pending)).exec (World.calm c) w = (.error e, w) := by
      unfold addKey
      simp only [exec_bind, perform_call, exec_call, exec_done, World.calm, World.perform, read]
    rw [exec_bind_ok _ (exec_require_true _ _ _ free), exec_bind_error _ key]
    exact ⟨e, rfl⟩
  · rw [exec_bind_error _ (exec_require_false _ _ _ free)]
    exact ⟨_, rfl⟩


theorem rerunAdd_loaded {pending : PendingAdd} (recorded : w.store.pendingAdd = some pending)
    (bound : w.record.controllerId ≠ none) (loads : AddLoads w pending) :
    rerunAdd c w pending.label =
      (addResume w.record pending.label w.server.snapshot (some pending)).exec (World.calm c)
        (locked .add w) := by
  obtain ⟨id, named⟩ := Option.ne_none_iff_exists'.mp bound
  have required : requireBound w.record = .ok id := by
    unfold requireBound
    rw [named]
  have loaded : (loadPendingAdd w.record.deploymentId).exec (World.calm c) (locked .add w) =
      (.ok (some pending), locked .add w) := @loadPendingAdd_exec c (locked .add w) _ recorded loads
  unfold rerunAdd addFlow
  rw [loads.2.1, required, exec_bind_ok _ (exec_ofExcept _ _ _),
    exec_bind_ok _ (exec_ofExcept _ _ _), exec_bind_ok _ (acquire_idle .add),
    exec_bind_ok _ (listSlots_locked .add), exec_bind_ok _ loaded]

theorem rerunAdd_refused {pending : PendingAdd} (recorded : w.store.pendingAdd = some pending)
    (refused : ¬ (w.record.controllerId ≠ none ∧ AddLoads w pending)) :
    ∃ e w', rerunAdd c w pending.label = (.error e, w') ∧ w'.store = w.store := by
  unfold rerunAdd addFlow
  cases valid : validateLabel pending.label with
  | error e =>
    rw [exec_bind_error _ (exec_ofExcept _ _ _)]
    exact ⟨e, _, rfl, rfl⟩
  | ok _ =>
    rw [exec_bind_ok _ (exec_ofExcept _ _ _)]
    cases required : requireBound w.record with
    | error e =>
      rw [exec_bind_error _ (exec_ofExcept _ _ _)]
      exact ⟨e, _, rfl, rfl⟩
    | ok id =>
      have bound : w.record.controllerId ≠ none := by
        intro unbound
        simp [requireBound, unbound] at required
      obtain ⟨e, fails⟩ := @loadPendingAdd_fails c (locked .add w) pending recorded
        fun loads => refused ⟨bound, loads⟩
      have fails' : (loadPendingAdd w.record.deploymentId).exec (World.calm c) (locked .add w) =
        _ := fails
      rw [exec_bind_ok _ (exec_ofExcept _ _ _), exec_bind_ok _ (acquire_idle .add),
        exec_bind_ok _ (listSlots_locked .add), exec_bind_error _ fails']
      exact ⟨e, _, rfl, rfl⟩

theorem not_resumed_unlisted {α : Type} {kid : Kid} {root : Option String} {Cleared : Store → Prop}
    {r : Except Failure α} {w' : World} (kept : ¬ Cleared w'.store)
    (unlisted : ∀ slot ∈ w'.server.slots, slot.kid ≠ kid) :
    ¬ Resumed w kid root Cleared (r, w') := by
  have foreign : ¬ Enrolled w' kid := by
    rintro ⟨slot, active, same, -⟩
    exact unlisted slot (List.mem_filter.mp active).1 same
  intro resumed
  cases resumed with
  | committed _ _ enrolled => exact foreign enrolled
  | adopted _ _ _ enrolled => exact foreign enrolled
  | removed _ _ _ cleared => exact kept cleared

/-- A listed key is adopted or stands in the way, whatever the label. -/
theorem addResume_listed {pending : PendingAdd} {slot : ControllerSlotView}
    (recorded : w.store.pendingAdd = some pending) (loads : AddLoads w pending)
    (found : w.server.snapshot.items.find? (·.kid = pending.kid) = some slot) :
    AddResumed w pending ((addResume w.record pending.label w.server.snapshot
        (some pending)).exec (World.calm c) (locked .add w)) ↔
      slot.deploymentId = w.record.deploymentId ∧ slot.status = .active := by
  have resumes : addResume w.record pending.label w.server.snapshot (some pending) =
      addAdopt w.record pending slot := by
    simp only [addResume, found]
  have kid : slot.kid = pending.kid := by simpa using List.find?_some found
  rw [resumes]
  by_cases live : slot.deploymentId = w.record.deploymentId ∧ slot.status = .active
  · obtain ⟨report, done⟩ := @addAdopt_exec c (locked .add w) pending slot loads.2.2 kid live
    have done' : (addAdopt w.record pending slot).exec (World.calm c) (locked .add w) = _ := done
    have active : slot ∈ w.server.snapshot.activeSlots :=
      List.mem_filter.mpr ⟨List.mem_of_find?_eq_some found, decide_eq_true live.2⟩
    rw [done']
    exact iff_of_true (.adopted _ _ rfl ⟨slot, active, kid, rfl, rfl, loads.2.2⟩) live
  · obtain ⟨e, refused⟩ := @addAdopt_refused c (locked .add w) pending slot live
    have refused' : (addAdopt w.record pending slot).exec (World.calm c) (locked .add w) = _ :=
      refused
    rw [refused']
    refine iff_of_false (not_resumed_error ?_) live
    show w.store.pendingAdd ≠ none
    simp [recorded]

/-- The reconciliation that precedes a proposal removes its key, unless it leaves everything. -/
theorem addReconcile_unlisted (taken : c.verdict = .taken) {pending : PendingAdd}
    (recorded : w.store.pendingAdd = some pending) (stored : w.store.Stored pending.kid)
    (unlisted : ∀ slot ∈ w.server.slots, slot.kid ≠ pending.kid) :
    AddResumed w pending ((addReconcile w.record pending.label w.server.snapshot
        (some pending)).exec (World.calm c) (locked .add w)) ↔ AddOpen w := by
  have kept : w.store.pendingAdd ≠ none := by simp [recorded]
  unfold addReconcile
  cases reconciled c (locked .add w) w.server.snapshot with
  | unreadable e unreadable run =>
    have run' : (reconcileFromSnapshot w.record w.server.snapshot).exec (World.calm c)
        (locked .add w) = _ := run
    rw [exec_bind_error _ run']
    exact iff_of_false (not_resumed_error kept) fun opened => unreadable opened.1
  | adopts slot report loadable own run nothing =>
    have run' : (reconcileFromSnapshot w.record w.server.snapshot).exec (World.calm c)
        (locked .add w) = _ := run
    have own' : ownSlot w.record (localKids w) w.server.snapshot = some slot := own
    have closed : ¬ AddOpen w := by
      rintro ⟨-, absent, -⟩
      rw [own'] at absent
      cases absent
    rw [exec_bind_ok _ run']
    cases report with
    | some report => exact iff_of_false (not_resumed_unlisted kept unlisted) closed
    | none =>
      have gone : ¬ (adopted (locked .add w) w.server.snapshot slot).store.Stored pending.kid := by
        intro still
        have outside := (Store.stored_discardAll.mp still).2
        refine outside (List.mem_filter.mpr ⟨mem_localKids.mpr stored, ?_⟩)
        apply decide_eq_true
        rintro ⟨other, member, same⟩
        exact unlisted other member same
      obtain ⟨e, stuck⟩ := @addPropose_stuck c (adopted (locked .add w) w.server.snapshot slot)
        pending w.record w.server.snapshot fun both => gone both.2
      show AddResumed w pending ((addPropose w.record pending.label w.server.snapshot
        (some pending)).exec (World.calm c) _) ↔ _
      rw [stuck]
      exact iff_of_false (not_resumed_error kept) closed
  | drops id report loadable own named gone run =>
    have run' : (reconcileFromSnapshot w.record w.server.snapshot).exec (World.calm c)
        (locked .add w) = _ := run
    have own' : ownSlot w.record (localKids w) w.server.snapshot = none := own
    rw [exec_bind_ok _ run']
    refine iff_of_false (not_resumed_unlisted kept unlisted) ?_
    rintro ⟨-, -, silent, -⟩
    apply silent
    unfold Reconcilable
    rw [own']
    exact ⟨id, named, gone⟩
  | leaves loadable own present run =>
    have run' : (reconcileFromSnapshot w.record w.server.snapshot).exec (World.calm c)
        (locked .add w) = _ := run
    have own' : ownSlot w.record (localKids w) w.server.snapshot = none := own
    have silent : ¬ Reconcilable w := by
      unfold Reconcilable
      rw [own']
      rintro ⟨id, named, gone⟩
      obtain ⟨slot, active, same⟩ := present id named
      exact gone slot active same
    rw [exec_bind_ok _ run']
    show AddResumed w pending ((addPropose w.record pending.label w.server.snapshot
      (some pending)).exec (World.calm c) (locked .add w)) ↔ _
    by_cases free : w.server.snapshot.activeSlots.length < w.server.snapshot.maxActiveSlots
    · obtain ⟨report, publicKey, done⟩ :=
        @addPropose_exec c (locked .add w) taken pending stored free
      have done' : (addPropose w.record pending.label w.server.snapshot (some pending)).exec
          (World.calm c) (locked .add w) = _ := done
      have enrolled := @addCommitted_enrolled c (locked .add w) pending.label
        ⟨pending.kid, publicKey⟩ stored
      rw [done']
      exact iff_of_true (.committed _ _ enrolled rfl) ⟨loadable, own', silent, free⟩
    · obtain ⟨e, stuck⟩ := @addPropose_stuck c (locked .add w) pending w.record w.server.snapshot
        fun both => free both.1
      rw [stuck]
      exact iff_of_false (not_resumed_error kept) fun opened => free opened.2.2.2

theorem add_resumed_iff (taken : c.verdict = .taken) {pending : PendingAdd}
    (recorded : w.store.pendingAdd = some pending) :
    AddResumed w pending (rerunAdd c w pending.label) ↔ AddResumable w pending := by
  by_cases usable : w.record.controllerId ≠ none ∧ AddLoads w pending
  · obtain ⟨bound, loads⟩ := usable
    rw [rerunAdd_loaded recorded bound loads]
    unfold AddResumable
    rw [and_iff_right bound, and_iff_right loads]
    cases found : w.server.snapshot.items.find? (·.kid = pending.kid) with
    | some slot => exact addResume_listed recorded loads found
    | none =>
      have unlisted : ∀ slot ∈ w.server.slots, slot.kid ≠ pending.kid := by
        intro slot member
        simpa using List.find?_eq_none.mp found slot member
      have resumes : (addResume w.record pending.label w.server.snapshot (some pending)).exec
          (World.calm c) (locked .add w) = (addReconcile w.record pending.label w.server.snapshot
            (some pending)).exec (World.calm c) (locked .add w) := by
        simp only [addResume, found]
        rw [exec_bind_ok _ (exec_require_true _ _ _ trivial)]
      rw [resumes]
      exact addReconcile_unlisted taken recorded loads.2.2 unlisted
  · obtain ⟨e, w', refused, same⟩ := @rerunAdd_refused c w pending recorded usable
    rw [refused]
    refine iff_of_false (not_resumed_error ?_) fun resumable => usable ⟨resumable.1, resumable.2.1⟩
    rw [same, recorded]
    exact Option.some_ne_none _

/-! ## Recovery -/

def rerunRecover (protocol : RecoveryProtocol) (c : Circumstances) (w : World)
    (oldSecretText label : String) : Except Failure RecoveryCommitView × World :=
  (recoverControllerIdentity protocol w.record.deploymentId oldSecretText label).exec
    (World.calm c) (idle w)

/-- The slot that the server shows for an answer it has taken or takes now. -/
def answeredSlot (c : Circumstances) (w : World) (challengeId : String) :
    Option ControllerSlotView :=
  match w.server.challenge challengeId with
  | some ⟨_, proposal, .issued⟩ => some (Server.recovered c.assigned proposal)
  | some ⟨_, _, .accepted receipt⟩ => some receipt.slot
  | _ => none

/-- A rejected answer clears its record. An accepted one is only of use with its key. -/
def RecoverResumable (c : Circumstances) (w : World) (pending : PendingRecovery) : Prop :=
  RecoveryFits pending w.record.deploymentId ∧
    ∀ slot ∈ answeredSlot c w pending.answer.challengeId,
      slot.deploymentId = w.record.deploymentId ∧ slot.kid = pending.candidateKid ∧
        w.store.Stored pending.candidateKid


def RecoverResumed (w : World) (pending : PendingRecovery) :
    Except Failure RecoveryCommitView × World → Prop :=
  Resumed w pending.candidateKid
    ((w.server.challenge pending.answer.challengeId).map (·.proposal.recoveryPublicKey))
    (·.pendingRecovery = none)

theorem loadPendingRecovery_exec {pending : PendingRecovery}
    (recorded : w.store.pendingRecovery = some pending)
    (fits : RecoveryFits pending w.record.deploymentId) :
    (loadPendingRecovery w.record.deploymentId).exec (World.calm c) w = (.ok (some pending), w) := by
  unfold loadPendingRecovery
  simp only [exec_bind, perform_call, exec_call, exec_done, World.calm, World.perform, recorded]
  rw [exec_require_true _ _ _ fits]
  rfl

theorem loadPendingRecovery_unfit {pending : PendingRecovery}
    (recorded : w.store.pendingRecovery = some pending)
    (unfit : ¬ RecoveryFits pending w.record.deploymentId) :
    ∃ e, (loadPendingRecovery w.record.deploymentId).exec (World.calm c) w = (.error e, w) := by
  unfold loadPendingRecovery
  simp only [exec_bind, perform_call, exec_call, exec_done, World.calm, World.perform, recorded]
  rw [exec_require_false _ _ _ unfit]
  exact ⟨_, rfl⟩

def recoveryFinished (w : World) (kid : Kid) (commit : RecoveryCommitView) : World :=
  { w.bound (some commit.slot.controllerId) (some (controllerKeyRefFor w.record.deploymentId)) with
    store := { w.store with active := some kid, pendingRecovery := none } }

theorem finishRecovery_exec {kid : Kid} {commit : RecoveryCommitView}
    (same : commit.slot.deploymentId = w.record.deploymentId ∧ commit.slot.kid = kid)
    (stored : w.store.Stored kid) :
    (finishRecovery w.record.deploymentId kid commit).exec (World.calm c) w =
      (.ok commit, recoveryFinished w kid commit) := by
  unfold finishRecovery
  rw [exec_bind_ok _ (exec_require_true _ _ _ same)]
  simp only [persistBindingFields, exec_bind, perform_call, exec_call, exec_done, World.calm,
    World.perform, World.onStore, World.bound, Store.setActiveKid_stored stored]
  rfl

theorem setActiveKid_missing {store : Store} {kid : Kid} (missing : ¬ store.Stored kid) :
    ∃ e, store.setActiveKid kid = (.error e, store) := by
  obtain ⟨e, read⟩ := Store.readKeyRecord_missing missing
  exact ⟨e, by simp only [Store.setActiveKid, read]⟩

theorem finishRecovery_stuck {kid : Kid} {commit : RecoveryCommitView}
    {deploymentId : DeploymentId}
    (stuck : ¬ (commit.slot.deploymentId = deploymentId ∧ commit.slot.kid = kid ∧
      w.store.Stored kid)) :
    ∃ e, (finishRecovery deploymentId kid commit).exec (World.calm c) w = (.error e, w) := by
  unfold finishRecovery
  by_cases same : commit.slot.deploymentId = deploymentId ∧ commit.slot.kid = kid
  · obtain ⟨e, missing⟩ := setActiveKid_missing fun stored => stuck ⟨same.1, same.2, stored⟩
    rw [exec_bind_ok _ (exec_require_true _ _ _ same)]
    simp only [exec_bind, perform_call, exec_call, exec_done, World.calm, World.perform,
      World.onStore, missing]
    exact ⟨e, rfl⟩
  · rw [exec_bind_error _ (exec_require_false _ _ _ same)]
    exact ⟨_, rfl⟩

theorem submit_answered {pending : PendingRecovery} {commit : RecoveryCommitView} {w' : World}
    (answered : w.submitAnswer c pending.answer = (.ok commit, w')) :
    (submitPendingRecovery pending).exec (World.calm c) w =
      (finishRecovery pending.deploymentId pending.candidateKid commit).exec (World.calm c) w' := by
  unfold submitPendingRecovery
  simp only [exec_bind, attempt_call, exec_call, exec_done, World.calm, World.perform, answered]

theorem submit_rejected {pending : PendingRecovery} {status : ℕ} {error description : String}
    (rejected : w.submitAnswer c pending.answer =
      (.error (.api (.rejected status error description)), w)) :
    ∃ e w', (submitPendingRecovery pending).exec (World.calm c) w = (.error e, w') ∧
      w'.server = w.server ∧ w'.store.pendingRecovery = none := by
  unfold submitPendingRecovery
  simp only [exec_bind, attempt_call, exec_call, exec_done, World.calm, World.perform, rejected,
    AdminApiError.unanswered, rejectRecovery]
  exact ⟨_, _, rfl, rfl, rfl⟩

theorem rerunRecover_submits {pending : PendingRecovery} (oldSecretText label : String)
    (recorded : w.store.pendingRecovery = some pending)
    (fits : RecoveryFits pending w.record.deploymentId) :
    rerunRecover protocol c w oldSecretText label =
      (submitPendingRecovery pending).exec (World.calm c) (locked .recovery w) := by
  have loaded : (loadPendingRecovery w.record.deploymentId).exec (World.calm c)
      (locked .recovery w) = (.ok (some pending), locked .recovery w) :=
    @loadPendingRecovery_exec c (locked .recovery w) pending recorded fits
  unfold rerunRecover recoverControllerIdentity
  rw [exec_bind_ok _ (acquire_idle .recovery), exec_bind_ok _ loaded]

theorem submitAnswer_taken (taken : c.verdict = .taken) (body : RecoveryAnswerBody) :
    (∃ commit w', w.submitAnswer c body = (.ok commit, w') ∧ w'.store = w.store ∧
        w'.record = w.record ∧ answeredSlot c w body.challengeId = some commit.slot ∧
        (w'.server = w.server ∨
          commit.slot ∈ w'.server.snapshot.activeSlots ∧
          w'.server.recoveryRoot =
            (w.server.challenge body.challengeId).map (·.proposal.recoveryPublicKey))) ∨
      (answeredSlot c w body.challengeId = none ∧ ∃ status error description,
        w.submitAnswer c body = (.error (.api (.rejected status error description)), w)) := by
  unfold World.submitAnswer answeredSlot
  rw [taken]
  cases w.server.challenge body.challengeId with
  | none => exact .inr ⟨rfl, _, _, _, rfl⟩
  | some challenge =>
    obtain ⟨issued, proposal, state⟩ := challenge
    cases state with
    | issued =>
      refine .inl ⟨_, _, rfl, rfl, rfl, rfl, .inr ⟨?_, rfl⟩⟩
      apply List.mem_filter.mpr
      exact ⟨List.mem_append_right _ (List.mem_singleton.mpr rfl), rfl⟩
    | accepted receipt => exact .inl ⟨_, _, rfl, rfl, rfl, rfl, .inl rfl⟩
    | rejected => exact .inr ⟨rfl, _, _, _, rfl⟩

theorem recover_resumed_iff (taken : c.verdict = .taken) {pending : PendingRecovery}
    (oldSecretText label : String) (recorded : w.store.pendingRecovery = some pending) :
    RecoverResumed w pending (rerunRecover protocol c w oldSecretText label) ↔
      RecoverResumable c w pending := by
  have kept : w.store.pendingRecovery ≠ none := by simp [recorded]
  by_cases fits : RecoveryFits pending w.record.deploymentId
  · rw [rerunRecover_submits oldSecretText label recorded fits]
    rcases @submitAnswer_taken c (locked .recovery w) taken pending.answer with
      ⟨commit, w', answered, store, record, shown, server⟩ | ⟨shown, _, _, _, rejected⟩
    · have shown' : answeredSlot c w pending.answer.challengeId = some commit.slot := shown
      have store' : w'.store = w.store := store
      have record' : w'.record = w.record := record
      have deployment : pending.deploymentId = w'.record.deploymentId := by
        rw [record', fits.2.1]
      rw [submit_answered answered, deployment]
      by_cases usable : commit.slot.deploymentId = w'.record.deploymentId ∧
          commit.slot.kid = pending.candidateKid ∧ w'.store.Stored pending.candidateKid
      · rw [finishRecovery_exec ⟨usable.1, usable.2.1⟩ usable.2.2]
        refine iff_of_true ?_ ⟨fits, ?_⟩
        · rcases server with unchanged | ⟨active, rooted⟩
          · exact .removed _ _ unchanged rfl
          · exact .committed _ _ ⟨commit.slot, active, usable.2.1, rfl, rfl, usable.2.2⟩ rooted
        · intro slot named
          cases shown'.symm.trans named
          rw [record', store'] at usable
          exact usable
      · obtain ⟨e, stuck⟩ := @finishRecovery_stuck c w' _ commit _ usable
        rw [stuck]
        refine iff_of_false (not_resumed_error (by rw [store']; exact kept)) ?_
        rintro ⟨-, all⟩
        rw [record', store'] at usable
        exact usable (all commit.slot shown')
    · obtain ⟨e, w', done, server, cleared⟩ := submit_rejected rejected
      have shown' : answeredSlot c w pending.answer.challengeId = none := shown
      rw [done]
      refine iff_of_true (.removed _ _ server cleared) ⟨fits, ?_⟩
      intro slot named
      rw [shown'] at named
      cases named
  · obtain ⟨e, unfit⟩ := @loadPendingRecovery_unfit c (locked .recovery w) pending recorded fits
    have unfit' : (loadPendingRecovery w.record.deploymentId).exec (World.calm c)
        (locked .recovery w) = _ := unfit
    unfold rerunRecover recoverControllerIdentity
    rw [exec_bind_ok _ (acquire_idle .recovery), exec_bind_error _ unfit']
    exact iff_of_false (not_resumed_error kept) fun resumable => fits resumable.1


/-! ## All three records -/

/-- The rerun of each flow that has left a record, with the label of that record. -/
structure Resumes (protocol : RecoveryProtocol) (c : Circumstances) (w : World) : Prop where
  bind : ∀ pending, w.store.pendingBind = some pending →
    BindResumed protocol w pending (rerunBind protocol c w pending.label)
  add : ∀ pending, w.store.pendingAdd = some pending →
    AddResumed w pending (rerunAdd c w pending.label)
  recover : ∀ pending oldSecretText label, w.store.pendingRecovery = some pending →
    RecoverResumed w pending (rerunRecover protocol c w oldSecretText label)

/-- No record stands in the way of its flow. -/
structure Resumable (protocol : RecoveryProtocol) (c : Circumstances) (w : World) : Prop where
  bind : ∀ pending, w.store.pendingBind = some pending → BindResumable protocol w pending
  add : ∀ pending, w.store.pendingAdd = some pending → AddResumable w pending
  recover : ∀ pending, w.store.pendingRecovery = some pending → RecoverResumable c w pending

/-- Every call of the run of a flow works but the one with the given number, which the server
refuses. -/
def refusedAt (call : ℕ) (kid : Kid) (controllerId : ControllerId) : World.Script := fun n =>
  if n = call then
    { exampleCircumstances kid controllerId with
      verdict := .refused (.rejected 403 "approval_invalid" "") }
  else exampleCircumstances kid controllerId

/-- A first bind whose approval is refused after its record was written. -/
def exampleUnapproved : World :=
  exampleWorld.after (bindFlow exampleProtocol exampleWorld.record "ops")
    (refusedAt 9 "first" "A")

/-- An add whose commit is refused after its record was written. -/
def exampleRejected : World :=
  exampleBound.after (addFlow exampleBound.record "laptop") (refusedAt 9 "second" "B")

/-- Unfinished enrollments can be taken up exactly when their records allow it. -/
theorem enrollment_resumes_iff (taken : c.verdict = .taken) :
    Resumes protocol c w ↔ Resumable protocol c w := by
  constructor
  · intro resumes
    exact ⟨fun pending recorded => (bind_resumed_iff taken recorded).mp (resumes.bind pending recorded),
      fun pending recorded => (add_resumed_iff taken recorded).mp (resumes.add pending recorded),
      fun pending recorded =>
        (recover_resumed_iff taken "" "" recorded).mp (resumes.recover pending "" "" recorded)⟩
  · intro resumable
    exact ⟨fun pending recorded => (bind_resumed_iff taken recorded).mpr (resumable.bind pending recorded),
      fun pending recorded => (add_resumed_iff taken recorded).mpr (resumable.add pending recorded),
      fun pending oldSecretText label recorded =>
        (recover_resumed_iff taken oldSecretText label recorded).mpr
          (resumable.recover pending recorded)⟩

theorem unapproved_bind_resumes :
    exampleUnapproved.store.pendingBind ≠ none ∧
      Resumes exampleProtocol (exampleCircumstances "other" "A") exampleUnapproved := by
  have recorded : exampleUnapproved.store.pendingBind =
      some ⟨1, "deploy-alpha", "first", "ops", "secret"⟩ := by decide
  have loadable : exampleUnapproved.store.Loadable := by
    intro kid named
    have inactive : exampleUnapproved.store.active = none := by decide
    rw [inactive] at named
    cases named
  refine ⟨by simp [recorded], (enrollment_resumes_iff rfl).mpr ⟨?_, ?_, ?_⟩⟩
  · intro pending same
    cases recorded.symm.trans same
    refine ⟨by decide, loadable, .inr ⟨by decide, by decide, by decide,
      by decide, ⟨"secret", "secret", "secret"⟩, rfl⟩⟩
  · intro pending same
    have absent : exampleUnapproved.store.pendingAdd = none := by decide
    rw [absent] at same
    cases same
  · intro pending same
    have absent : exampleUnapproved.store.pendingRecovery = none := by decide
    rw [absent] at same
    cases same

/-- The retry of a rejected add retires the key that its own record names. -/
theorem rejected_add_not_resumed :
    ∃ w, Reached exampleProtocol w ∧
      ¬ Resumes exampleProtocol (exampleCircumstances "third" "C") w := by
  have bound : Reached exampleProtocol exampleBound :=
    .flow (.registered _ _ rfl) (.rerun (.bind exampleWorld "ops" _))
  refine ⟨exampleRejected, .flow bound (.rerun (.add _ "laptop" _)), ?_⟩
  intro resumes
  have recorded : exampleRejected.store.pendingAdd =
      some ⟨"deploy-alpha", "second", "laptop"⟩ := by decide
  obtain ⟨-, -, found⟩ := (add_resumed_iff rfl recorded).mp (resumes.add _ recorded)
  have unlisted : exampleRejected.server.snapshot.items.find? (·.kid = "second") = none := by
    decide
  simp only [unlisted] at found
  have adopts : ownSlot exampleRejected.record (localKids exampleRejected)
      exampleRejected.server.snapshot ≠ none := by decide
  exact adopts found.2.1


end NazoAuthCtl.ControllerResume
