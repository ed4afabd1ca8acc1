import NazoAuthCtl.ControllerFlows

/-!
# What one reconciliation leaves

A reconciliation adopts a slot, drops the binding or leaves everything as it is. Which of
these happens is decided by the recorded controller and by the active slots whose keys are
stored, and it is exactly then a lasting answer when these do not contradict each other.
-/

set_option autoImplicit false
set_option linter.all false

namespace NazoAuthCtl.ControllerBinding
open CallFlow.Flow (exec_bind exec_call exec_done exec_bind_ok exec_bind_error exec_onlyIf_true
  exec_onlyIf_false onlyIf ofExcept require)
open ControllerStore ControllerWorld ControllerFlows

/-! ## One reconciliation -/

def localKids (w : World) : List Kid := w.store.keys.map (·.kid)

/-- The slot is bound and the keys that the snapshot does not list are gone. -/
def adopted (w : World) (snapshot : SlotsSnapshot) (slot : ControllerSlotView) : World :=
  { w with
    record :=
      if needsFields w.record slot then
        { w.record with
          controllerId := some slot.controllerId
          controllerKeyRef := some (controllerKeyRefFor w.record.deploymentId) }
      else w.record
    store := { w.store with active := some slot.kid }.discardAll (unlistedKids (localKids w) snapshot) }

def dropped (w : World) : World :=
  { w.bound none (some (controllerKeyRefFor w.record.deploymentId)) with
    store := w.store.clearActive }

theorem mem_localKids {w : World} {kid : Kid} : kid ∈ localKids w ↔ w.store.Stored kid :=
  List.mem_map

theorem mem_ownSlots {record : InstanceRecord} {kids : List Kid} {snapshot : SlotsSnapshot}
    {slot : ControllerSlotView} :
    slot ∈ ownSlots record kids snapshot ↔
      slot ∈ snapshot.activeSlots ∧ slot.kid ∈ kids ∧
        ∀ id ∈ record.controllerId, id = slot.controllerId := by
  simp [ownSlots, List.mem_filter]

theorem ownSlot_mem {record : InstanceRecord} {kids : List Kid} {snapshot : SlotsSnapshot}
    {slot : ControllerSlotView} (own : ownSlot record kids snapshot = some slot) :
    slot ∈ ownSlots record kids snapshot := by
  unfold ownSlot at own
  cases slots : ownSlots record kids snapshot with
  | nil => simp [slots] at own
  | cons first more =>
    simp only [slots] at own
    split at own
    · cases own
      exact List.mem_cons_self
    · cases own

theorem activeSlots_listed {snapshot : SlotsSnapshot} {slot : ControllerSlotView}
    (active : slot ∈ snapshot.activeSlots) : SlotsSnapshot.lists snapshot slot.kid :=
  ⟨slot, (List.mem_filter.mp active).1, rfl⟩

/-- Retiring keys that are not active leaves the others. -/
theorem retireAll_exec (c : Circumstances) (kids : List Kid) (w : World)
    (spared : ∀ kid ∈ kids, w.store.active ≠ some kid) :
    ∃ retired, (retireAll kids).exec (World.calm c) w =
      (.ok retired, { w with store := w.store.discardAll kids }) := by
  induction kids generalizing w with
  | nil =>
    refine ⟨[], ?_⟩
    rw [Store.discardAll_nil]
    rfl
  | cons kid kids ih =>
    have inactive := spared kid List.mem_cons_self
    have others : ∀ other ∈ kids, w.store.active ≠ some other :=
      fun other member => spared other (List.mem_cons_of_mem kid member)
    unfold retireAll
    simp only [exec_bind, attempt_call, exec_call, exec_done, World.calm, World.perform,
      World.onStore, Store.retireKid, if_neg inactive]
    by_cases stored : w.store.Stored kid
    · obtain ⟨record, -, -, read⟩ := Store.readKeyRecord_stored stored
      simp only [read]
      obtain ⟨retired, run⟩ := ih { w with store := w.store.discard kid } others
      rw [run, Store.discardAll_cons]
      exact ⟨kid :: retired, rfl⟩
    · obtain ⟨e, read⟩ := Store.readKeyRecord_missing stored
      simp only [read]
      obtain ⟨retired, run⟩ := ih w others
      rw [run, Store.discardAll_missing stored]
      exact ⟨retired, rfl⟩


theorem adoptSlot_exec {w : World} {snapshot : SlotsSnapshot} {slot : ControllerSlotView}
    (c : Circumstances) (active : slot ∈ snapshot.activeSlots) (stored : w.store.Stored slot.kid) :
    ∃ report, (adoptSlot w.record (localKids w) w.store.active snapshot slot).exec (World.calm c) w =
      (.ok report, adopted w snapshot slot) ∧
      (report = none ↔ ¬ needsPointer w.store.active slot ∧ ¬ needsFields w.record slot) := by
  have fields : (onlyIf (needsFields w.record slot) (persistBindingFields w.record.deploymentId
      (some slot.controllerId))).exec (World.calm c) w =
      (.ok (), { w with record := (adopted w snapshot slot).record }) := by
    by_cases needs : needsFields w.record slot
    · rw [exec_onlyIf_true _ _ _ needs, adopted, if_pos needs]
      rfl
    · rw [exec_onlyIf_false _ _ _ needs, adopted, if_neg needs]
  have pointer : ∀ w' : World, w'.store = w.store →
      (onlyIf (needsPointer w.store.active slot) (perform (.setActiveKid slot.kid))).exec
        (World.calm c) w' =
      (.ok (), { w' with store := { w.store with active := some slot.kid } }) := by
    intro w' same
    by_cases needs : needsPointer w.store.active slot
    · rw [exec_onlyIf_true _ _ _ needs]
      show w'.onStore (w'.store.setActiveKid slot.kid) = _
      rw [same, Store.setActiveKid_stored stored]
      rfl
    · rw [exec_onlyIf_false _ _ _ needs]
      have already : w.store.active = some slot.kid := not_not.mp needs
      rw [← already, ← same]
  have spared : ∀ kid ∈ unlistedKids (localKids w) snapshot, some slot.kid ≠ some kid := by
    intro kid member same
    cases same
    have outside := of_decide_eq_true (List.mem_filter.mp member).2
    exact outside (activeSlots_listed active)
  obtain ⟨retired, run⟩ := retireAll_exec c (unlistedKids (localKids w) snapshot)
    { w with
      record := (adopted w snapshot slot).record
      store := { w.store with active := some slot.kid } } spared
  unfold adoptSlot
  rw [exec_bind_ok _ fields,
    exec_bind_ok _ (pointer { w with record := (adopted w snapshot slot).record } rfl),
    exec_bind_ok _ run]
  by_cases settled : ¬ needsPointer w.store.active slot ∧ ¬ needsFields w.record slot
  · rw [if_pos settled]
    exact ⟨none, rfl, iff_of_true rfl settled⟩
  · rw [if_neg settled]
    exact ⟨some _, rfl, iff_of_false (Option.some_ne_none _) settled⟩

theorem dropBinding_kept {w : World} {snapshot : SlotsSnapshot} (c : Circumstances)
    (kept : ∀ id ∈ w.record.controllerId, ∃ slot ∈ snapshot.activeSlots, slot.controllerId = id) :
    (dropBinding w.record snapshot).exec (World.calm c) w = (.ok none, w) := by
  unfold dropBinding
  cases recorded : w.record.controllerId with
  | none => rfl
  | some id =>
    obtain ⟨slot, active, same⟩ := kept id recorded
    obtain ⟨member, status⟩ := List.mem_filter.mp active
    have listed : ∃ slot ∈ snapshot.items, slot.controllerId = id ∧ slot.status = .active :=
      ⟨slot, member, same, of_decide_eq_true status⟩
    simp only [if_pos listed]
    rfl

theorem dropBinding_dropped {w : World} {snapshot : SlotsSnapshot} {id : ControllerId}
    (c : Circumstances) (recorded : w.record.controllerId = some id)
    (gone : ∀ slot ∈ snapshot.activeSlots, slot.controllerId ≠ id) :
    ∃ report, (dropBinding w.record snapshot).exec (World.calm c) w =
      (.ok (some report), dropped w) := by
  have unlisted : ¬ ∃ slot ∈ snapshot.items, slot.controllerId = id ∧ slot.status = .active := by
    rintro ⟨slot, member, same, active⟩
    exact gone slot (List.mem_filter.mpr ⟨member, decide_eq_true active⟩) same
  unfold dropBinding
  simp only [recorded, if_neg unlisted]
  exact ⟨_, rfl⟩

/-! A reconciliation of the record as it stands. -/

def reconcile (c : Circumstances) (w : World) (snapshot : SlotsSnapshot) :
    Except Failure (Option String) × World :=
  (reconcileFromSnapshot w.record snapshot).exec (World.calm c) w

theorem reconcile_loadable {c : Circumstances} {w w' : World} {snapshot : SlotsSnapshot}
    {report : Option String} (run : reconcile c w snapshot = (.ok report, w')) :
    w.store.Loadable := by
  unfold reconcile reconcileFromSnapshot at run
  simp only [exec_bind, perform_call, exec_call, exec_done, World.calm, World.perform] at run
  cases listed : w.store.listKeys with
  | error e => simp [listed] at run
  | ok summaries =>
    cases loaded : w.store.loadActive with
    | error e => simp [listed, loaded] at run
    | ok active => exact Store.loadable_of_loadActive loaded

theorem reconcile_eq {w : World} {snapshot : SlotsSnapshot} (c : Circumstances)
    (loadable : w.store.Loadable) :
    reconcile c w snapshot =
      match ownSlot w.record (localKids w) snapshot with
      | some slot =>
        (adoptSlot w.record (localKids w) w.store.active snapshot slot).exec (World.calm c) w
      | none => (dropBinding w.record snapshot).exec (World.calm c) w := by
  obtain ⟨summaries, listed⟩ := Store.listKeys_loadable loadable
  have kids : summaries.map (·.kid) = localKids w := Store.listKeys_ok listed
  unfold reconcile reconcileFromSnapshot
  simp only [exec_bind, perform_call, exec_call, exec_done, World.calm, World.perform, listed,
    Store.loadActive_loadable loadable, kids]
  cases ownSlot w.record (localKids w) snapshot with
  | some slot => rfl
  | none => rfl


theorem reconcile_unreadable {w : World} {snapshot : SlotsSnapshot} (c : Circumstances)
    (unreadable : ¬ w.store.Loadable) : ∃ e, reconcile c w snapshot = (.error e, w) := by
  cases run : reconcile c w snapshot with
  | mk r w' =>
    cases r with
    | ok report => exact absurd (reconcile_loadable run) unreadable
    | error e =>
      refine ⟨e, ?_⟩
      unfold reconcile reconcileFromSnapshot at run
      simp only [exec_bind, perform_call, exec_call, exec_done, World.calm, World.perform] at run
      cases listed : w.store.listKeys with
      | error e' =>
        simp only [listed] at run
        cases run
        rfl
      | ok summaries =>
        cases loaded : w.store.loadActive with
        | error e' =>
          simp only [listed, loaded] at run
          cases run
          rfl
        | ok active => exact absurd (Store.loadable_of_loadActive loaded) unreadable

/-- The four ways a reconciliation goes. -/
inductive Reconciled (c : Circumstances) (w : World) (snapshot : SlotsSnapshot) : Prop where
  | unreadable (e : Failure) (unreadable : ¬ w.store.Loadable)
    (run : reconcile c w snapshot = (.error e, w))
  | adopts (slot : ControllerSlotView) (report : Option String) (loadable : w.store.Loadable)
    (own : ownSlot w.record (localKids w) snapshot = some slot)
    (run : reconcile c w snapshot = (.ok report, adopted w snapshot slot))
    (nothing : report = none ↔ ¬ needsPointer w.store.active slot ∧ ¬ needsFields w.record slot)
  | drops (id : ControllerId) (report : String) (loadable : w.store.Loadable)
    (own : ownSlot w.record (localKids w) snapshot = none)
    (recorded : w.record.controllerId = some id)
    (gone : ∀ slot ∈ snapshot.activeSlots, slot.controllerId ≠ id)
    (run : reconcile c w snapshot = (.ok (some report), dropped w))
  | leaves (loadable : w.store.Loadable)
    (own : ownSlot w.record (localKids w) snapshot = none)
    (kept : ∀ id ∈ w.record.controllerId, ∃ slot ∈ snapshot.activeSlots, slot.controllerId = id)
    (run : reconcile c w snapshot = (.ok none, w))

theorem reconciled (c : Circumstances) (w : World) (snapshot : SlotsSnapshot) :
    Reconciled c w snapshot := by
  by_cases loadable : w.store.Loadable
  · have run := @reconcile_eq w snapshot c loadable
    cases own : ownSlot w.record (localKids w) snapshot with
    | some slot =>
      obtain ⟨active, inside, -⟩ := mem_ownSlots.mp (ownSlot_mem own)
      obtain ⟨report, adopts, nothing⟩ := adoptSlot_exec c active (mem_localKids.mp inside)
      simp only [own, adopts] at run
      exact .adopts slot report loadable own run nothing
    | none =>
      simp only [own] at run
      by_cases kept : ∀ id ∈ w.record.controllerId,
          ∃ slot ∈ snapshot.activeSlots, slot.controllerId = id
      · rw [dropBinding_kept c kept] at run
        exact .leaves loadable own kept run
      · push Not at kept
        obtain ⟨id, recorded, gone⟩ := kept
        obtain ⟨report, drops⟩ := dropBinding_dropped c recorded gone
        rw [drops] at run
        exact .drops id report loadable own recorded gone run
  · obtain ⟨e, run⟩ := reconcile_unreadable c loadable
    exact .unreadable e loadable run

/-! ## What it leaves -/

/-- The active slots whose keys are stored. -/
def heldSlots (w : World) : List ControllerSlotView :=
  w.server.snapshot.activeSlots.filter fun slot => w.store.Stored slot.kid

/-- The recorded controller and the active key are those of one of the active slots, and the
key is stored. -/
def BoundTo (w : World) (snapshot : SlotsSnapshot) : Prop :=
  ∃ slot ∈ snapshot.activeSlots, w.record.controllerId = some slot.controllerId ∧
    w.store.active = some slot.kid ∧ w.store.Stored slot.kid

theorem mem_heldSlots {w : World} {slot : ControllerSlotView} :
    slot ∈ heldSlots w ↔ slot ∈ w.server.snapshot.activeSlots ∧ w.store.Stored slot.kid := by
  simp [heldSlots, List.mem_filter]

theorem ownSlots_held (w : World) :
    ownSlots w.record (localKids w) w.server.snapshot =
      (heldSlots w).filter fun slot => ∀ id ∈ w.record.controllerId, id = slot.controllerId := by
  unfold ownSlots heldSlots
  rw [List.filter_filter]
  apply List.filter_congr
  intro slot _
  rw [decide_eq_decide.mpr (and_congr_left' mem_localKids), Bool.decide_and, Bool.and_comm]

theorem ownSlots_unbound {w : World} (unbound : w.record.controllerId = none) :
    ownSlots w.record (localKids w) w.server.snapshot = heldSlots w := by
  rw [ownSlots_held, unbound]
  simp

theorem stored_adopted {w : World} {snapshot : SlotsSnapshot} {slot : ControllerSlotView} {kid : Kid}
    (listed : SlotsSnapshot.lists snapshot kid) :
    (adopted w snapshot slot).store.Stored kid ↔ w.store.Stored kid := by
  have kept : kid ∉ unlistedKids (localKids w) snapshot := by
    intro member
    exact of_decide_eq_true (List.mem_filter.mp member).2 listed
  show ({ w.store with active := some slot.kid }.discardAll _).Stored kid ↔ _
  rw [Store.stored_discardAll]
  exact and_iff_left kept

theorem adopted_controller (w : World) (snapshot : SlotsSnapshot) (slot : ControllerSlotView) :
    (adopted w snapshot slot).record.controllerId = some slot.controllerId ∧
      ¬ needsFields (adopted w snapshot slot).record slot := by
  unfold adopted
  by_cases needs : needsFields w.record slot
  · rw [if_pos needs]
    simp [needsFields]
  · rw [if_neg needs]
    exact ⟨not_not.mp fun other => needs (.inl other), needs⟩

theorem adopted_fixed {w : World} {snapshot : SlotsSnapshot} {slot : ControllerSlotView}
    (active : w.store.active = some slot.kid) (fields : ¬ needsFields w.record slot)
    (listed : unlistedKids (localKids w) snapshot = []) : adopted w snapshot slot = w := by
  unfold adopted
  rw [if_neg fields, listed, Store.discardAll_nil, ← active]

theorem adopted_boundTo {w : World} {snapshot : SlotsSnapshot} {slot : ControllerSlotView}
    (active : slot ∈ snapshot.activeSlots) (stored : w.store.Stored slot.kid) :
    BoundTo (adopted w snapshot slot) snapshot :=
  ⟨slot, active, (adopted_controller w snapshot slot).1, rfl,
    (stored_adopted (activeSlots_listed active)).mpr stored⟩

theorem unlisted_adopted (w : World) (snapshot : SlotsSnapshot) (slot : ControllerSlotView) :
    unlistedKids (localKids (adopted w snapshot slot)) snapshot = [] := by
  apply List.filter_eq_nil_iff.mpr
  intro kid member
  obtain ⟨record, kept, rfl⟩ := List.mem_map.mp member
  obtain ⟨present, inside⟩ := List.mem_filter.mp kept
  have listed : SlotsSnapshot.lists snapshot record.kid := by
    by_contra outside
    exact of_decide_eq_true inside
      (List.mem_filter.mpr ⟨List.mem_map_of_mem present, decide_eq_true outside⟩)
  simp [listed]

theorem ownSlots_adopted (w : World) (snapshot : SlotsSnapshot) {slot : ControllerSlotView}
    (own : slot ∈ ownSlots w.record (localKids w) snapshot) :
    ownSlots (adopted w snapshot slot).record (localKids (adopted w snapshot slot)) snapshot =
      (ownSlots w.record (localKids w) snapshot).filter
        fun other => other.controllerId = slot.controllerId := by
  unfold ownSlots
  rw [List.filter_filter]
  apply List.filter_congr
  intro other member
  have same : other.kid ∈ localKids (adopted w snapshot slot) ↔ other.kid ∈ localKids w := by
    rw [mem_localKids, mem_localKids]
    exact stored_adopted (activeSlots_listed member)
  rw [(adopted_controller w snapshot slot).1, ← Bool.decide_and]
  apply decide_eq_decide.mpr
  simp only [same, Option.mem_def, Option.some.injEq, forall_eq']
  constructor
  · rintro ⟨inside, matching⟩
    refine ⟨matching.symm, inside, ?_⟩
    intro id recorded
    rw [← matching]
    exact (mem_ownSlots.mp own).2.2 id recorded
  · rintro ⟨matching, inside, -⟩
    exact ⟨inside, matching.symm⟩

theorem ownSlot_adopted {w : World} {snapshot : SlotsSnapshot} {slot : ControllerSlotView}
    (own : ownSlot w.record (localKids w) snapshot = some slot) :
    ownSlot (adopted w snapshot slot).record (localKids (adopted w snapshot slot)) snapshot =
      some slot := by
  have member := ownSlot_mem own
  unfold ownSlot at own ⊢
  rw [ownSlots_adopted w snapshot member, (adopted_controller w snapshot slot).1]
  cases slots : ownSlots w.record (localKids w) snapshot with
  | nil => simp [slots] at own
  | cons first more =>
    simp only [slots] at own
    split at own
    · cases own
      simp
    · cases own

/-- The same snapshot finds nothing left to do. -/
theorem reconcile_adopted {w : World} {snapshot : SlotsSnapshot} {slot : ControllerSlotView}
    (c : Circumstances) (own : ownSlot w.record (localKids w) snapshot = some slot) :
    reconcile c (adopted w snapshot slot) snapshot = (.ok none, adopted w snapshot slot) := by
  obtain ⟨active, inside, -⟩ := mem_ownSlots.mp (ownSlot_mem own)
  have stored : (adopted w snapshot slot).store.Stored slot.kid :=
    (stored_adopted (activeSlots_listed active)).mpr (mem_localKids.mp inside)
  have loadable : (adopted w snapshot slot).store.Loadable := by
    intro kid named
    cases named
    exact stored
  obtain ⟨report, run, nothing⟩ := adoptSlot_exec c active stored
  rw [reconcile_eq c loadable, ownSlot_adopted own]
  have settled : report = none :=
    nothing.mpr ⟨fun needs => needs rfl, (adopted_controller w snapshot slot).2⟩
  have same : adopted (adopted w snapshot slot) snapshot slot = adopted w snapshot slot :=
    adopted_fixed rfl (adopted_controller w snapshot slot).2 (unlisted_adopted w snapshot slot)
  show (adoptSlot _ _ _ _ _).exec _ _ = _
  rw [run, settled, same]


/-! ## Without a recorded controller and with several held slots -/

variable (protocol : RecoveryProtocol)

/-- A run of one of the flows that need no recovery secret, however it ends. -/
inductive Rerun : World → World → Prop where
  | bind (w : World) (label : String) (script : World.Script) :
    Rerun w (w.after (bindFlow protocol w.record label) script)
  | rotate (w : World) (label : Option String) (script : World.Script) :
    Rerun w (w.after (rotateFlow w.record label) script)
  | add (w : World) (label : String) (script : World.Script) :
    Rerun w (w.after (addFlow w.record label) script)

def Ambiguous (w : World) : Prop := w.record.controllerId = none ∧ 2 ≤ (heldSlots w).length

/-- A state of a run that has not written anything of the binding. -/
def Frozen (w : World) (s : World × World.Script) : Prop :=
  s.1.store = w.store ∧ s.1.record = w.record ∧ s.1.server = w.server

/-- A flow that writes nothing of the binding and whose result satisfies `Q`. -/
def Reads {α : Type} (w : World) (f : Flow α) (Q : α → Prop) (s : World × World.Script) : Prop :=
  Frozen w (f.exec World.scripted s).2 ∧
    ∀ a, (f.exec World.scripted s).1 = .ok a → Q a

theorem reads_pure {α : Type} {w : World} {a : α} {Q : α → Prop} {s : World × World.Script}
    (frozen : Frozen w s) (holds : Q a) : Reads w (pure a) Q s := by
  refine ⟨frozen, ?_⟩
  intro b same
  cases same
  exact holds

theorem reads_ofExcept {α : Type} {w : World} {x : Except Failure α} {Q : α → Prop}
    {s : World × World.Script} (frozen : Frozen w s) (holds : ∀ a, x = .ok a → Q a) :
    Reads w (ofExcept x) Q s := ⟨frozen, holds⟩

theorem reads_refused {w : World} {p : Prop} [Decidable p] {e : Failure}
    {s : World × World.Script} (frozen : Frozen w s) (fails : ¬ p) :
    Reads w (require p e) (fun _ => False) s := by
  rw [require, if_neg fails]
  refine ⟨frozen, ?_⟩
  intro a same
  cases same

theorem reads_bind {α β : Type} {w : World} {f : Flow α} {g : α → Flow β} {Q : α → Prop}
    {R : β → Prop} {s : World × World.Script} (first : Reads w f Q s)
    (rest : ∀ a s', Q a → Frozen w s' → Reads w (g a) R s') : Reads w (f >>= g) R s := by
  obtain ⟨frozen, result⟩ := first
  unfold Reads
  rw [exec_bind]
  cases run : f.exec World.scripted s with
  | mk r s' =>
    rw [run] at frozen result
    cases r with
    | ok a => exact rest a s' (result a rfl) frozen
    | error e =>
      refine ⟨frozen, ?_⟩
      intro a same
      cases same

theorem reads_perform {w : World} (call : Call) {Q : Reply call → Prop}
    {s : World × World.Script} (frozen : Frozen w s)
    (reads : Frozen w ((s.1.perform (s.2 0) call).2, s.2))
    (holds : ∀ a, (s.1.perform (s.2 0) call).1 = .ok a → Q a) : Reads w (perform call) Q s := by
  show Frozen w ((s.1.answer (s.2 0) call).2, _) ∧
    ∀ a, (s.1.answer (s.2 0) call).1 = .ok a → Q a
  rcases World.answer_cases (s.2 0) call s.1 with ⟨e, failed⟩ | performed
  · rw [failed]
    refine ⟨frozen, ?_⟩
    intro a same
    cases same
  · rw [performed]
    exact ⟨reads, holds⟩

theorem ambiguous_own {w : World} (ambiguous : Ambiguous w) :
    ownSlot w.record (localKids w) w.server.snapshot = none := by
  obtain ⟨unbound, several⟩ := ambiguous
  unfold ownSlot
  rw [ownSlots_unbound unbound]
  cases held : heldSlots w with
  | nil => rfl
  | cons slot more =>
    cases more with
    | nil => simp [held] at several
    | cons other rest => simp [unbound]

theorem ambiguous_active {w : World} (ambiguous : Ambiguous w) :
    w.server.snapshot.activeSlots ≠ [] := by
  intro empty
  have none_held : heldSlots w = [] := by
    unfold heldSlots
    rw [empty]
    rfl
  have several := ambiguous.2
  rw [none_held] at several
  simp at several

/-- Nothing is adopted and nothing is dropped. -/
theorem ambiguous_reconcile {w : World} {s : World × World.Script} (ambiguous : Ambiguous w)
    (frozen : Frozen w s) :
    Reads w (reconcileFromSnapshot w.record w.server.snapshot) (· = none) s := by
  have decides : ∀ s' summaries, Frozen w s' → (s'.1.store.listKeys) = .ok summaries →
      summaries.map (·.kid) = localKids w := by
    intro s' summaries same listed
    rw [same.1] at listed
    exact Store.listKeys_ok listed
  have leaves : dropBinding w.record w.server.snapshot = pure none := by
    unfold dropBinding
    rw [ambiguous.1]
  unfold reconcileFromSnapshot
  apply reads_bind (reads_perform .listKeys frozen frozen
    fun summaries => decides s summaries frozen)
  intro summaries s₁ kids frozen₁
  apply reads_bind (Q := fun _ => True)
    (reads_perform .loadActive frozen₁ frozen₁ fun _ _ => trivial)
  intro previous s₂ _ frozen₂
  rw [kids, ambiguous_own ambiguous]
  show Reads w (dropBinding _ _) _ _
  rw [leaves]
  exact reads_pure frozen₂ rfl

theorem reads_acquire {w : World} {s : World × World.Script} (lock : LockFile)
    (frozen : Frozen w s) : Reads w (perform (.acquire lock)) (fun _ => True) s := by
  apply reads_perform (.acquire lock) frozen _ fun _ _ => trivial
  show Frozen w ((if lock ∈ s.1.held then _ else _ : Except Failure Unit × World).2, s.2)
  split
  · exact frozen
  · exact frozen

theorem reads_listSlots {w : World} {s : World × World.Script} (frozen : Frozen w s) :
    Reads w (perform .listSlots) (· = w.server.snapshot) s := by
  apply reads_perform .listSlots frozen frozen
  intro snapshot same
  cases same
  show s.1.server.snapshot = _
  rw [frozen.2.2]

theorem ambiguous_bind {w : World} {s : World × World.Script} (ambiguous : Ambiguous w)
    (label : String) (frozen : Frozen w s) :
    Reads w (bindFlow protocol w.record label) (fun _ => True) s := by
  unfold bindFlow
  apply reads_bind (reads_ofExcept frozen fun _ _ => trivial)
  intro _ s₁ _ frozen₁
  apply reads_bind (reads_acquire .bind frozen₁)
  intro _ s₂ _ frozen₂
  apply reads_bind (reads_listSlots frozen₂)
  intro snapshot s₃ same frozen₃
  cases same
  apply reads_bind (ambiguous_reconcile ambiguous frozen₃)
  intro report s₄ same frozen₄
  cases same
  unfold bindPropose
  apply reads_bind (reads_refused frozen₄ fun admitted => ambiguous_active ambiguous admitted.1)
  intro _ _ never
  exact never.elim

theorem unbound_rotate {w : World} {s : World × World.Script} (label : Option String)
    (unbound : w.record.controllerId = none) (frozen : Frozen w s) :
    Reads w (rotateFlow w.record label) (fun _ => True) s := by
  have refused : ∀ id, requireBound w.record = .ok id → False := by
    intro id bound
    simp [requireBound, unbound] at bound
  exact reads_bind (reads_ofExcept frozen refused) fun _ _ never _ => never.elim

theorem unbound_add {w : World} {s : World × World.Script} (label : String)
    (unbound : w.record.controllerId = none) (frozen : Frozen w s) :
    Reads w (addFlow w.record label) (fun _ => True) s := by
  have refused : ∀ id, requireBound w.record = .ok id → False := by
    intro id bound
    simp [requireBound, unbound] at bound
  unfold addFlow
  apply reads_bind (reads_ofExcept frozen fun _ _ => trivial)
  intro _ s₁ _ frozen₁
  exact reads_bind (reads_ofExcept frozen₁ refused) fun _ _ never _ => never.elim

theorem ambiguous_rerun {w w' : World} (ambiguous : Ambiguous w) (rerun : Rerun protocol w w') :
    Ambiguous w' := by
  have keeps : ∀ s : World × World.Script, Frozen w s → Ambiguous { s.1 with held := [] } := by
    rintro ⟨v, script⟩ ⟨store, record, server⟩
    show v.record.controllerId = none ∧ 2 ≤ (heldSlots { v with held := [] }).length
    have same : heldSlots { v with held := [] } = heldSlots w := by
      unfold heldSlots
      rw [store, server]
    rw [same, record]
    exact ambiguous
  have start : ∀ script, Frozen w (w, script) := fun _ => ⟨rfl, rfl, rfl⟩
  cases rerun with
  | bind label script => exact keeps _ (ambiguous_bind protocol ambiguous label (start script)).1
  | rotate label script => exact keeps _ (unbound_rotate label ambiguous.1 (start script)).1
  | add label script => exact keeps _ (unbound_add label ambiguous.1 (start script)).1

/-- Bind refuses an active slot, and rotate and add refuse without a recorded controller. -/
theorem ambiguous_never_bound {w w' : World} (ambiguous : Ambiguous w)
    (reruns : Relation.ReflTransGen (Rerun protocol) w w') :
    ¬ BoundTo w' w'.server.snapshot := by
  have still : Ambiguous w' := by
    induction reruns with
    | refl => exact ambiguous
    | tail _ rerun ih => exact ambiguous_rerun protocol ih rerun
  rintro ⟨slot, -, recorded, -⟩
  rw [still.1] at recorded
  cases recorded


/-! ## When one reconciliation settles the binding -/

/-- The recorded controller has an active slot whose key is stored, or it has none and neither
has any other controller. Without a recorded controller there is exactly one such slot, or
there is none and no key is active. -/
def Determined (w : World) : Prop :=
  match w.record.controllerId with
  | some id =>
    (∃ slot ∈ heldSlots w, slot.controllerId = id) ∨
      (∀ slot ∈ w.server.snapshot.activeSlots, slot.controllerId ≠ id) ∧ heldSlots w = []
  | none => (heldSlots w).length = 1 ∨ heldSlots w = [] ∧ w.store.active = none

/-- What a successful reconciliation with the server's list should leave. -/
structure Converges (c : Circumstances) (w w' : World) : Prop where
  settled : w'.record.controllerId = none ∧ w'.store.active = none ∨
    BoundTo w' w.server.snapshot
  lasting : reconcile c w' w.server.snapshot = (.ok none, w')
  bindable : (∃ slot ∈ w.server.snapshot.activeSlots, w.store.Stored slot.kid) →
    ∃ w'', Relation.ReflTransGen (Rerun protocol) w' w'' ∧ BoundTo w'' w''.server.snapshot

theorem converges_adopted {w : World} {slot : ControllerSlotView} (c : Circumstances)
    (own : ownSlot w.record (localKids w) w.server.snapshot = some slot) :
    Converges protocol c w (adopted w w.server.snapshot slot) := by
  obtain ⟨active, inside, -⟩ := mem_ownSlots.mp (ownSlot_mem own)
  have bound := adopted_boundTo active (mem_localKids.mp inside)
  exact ⟨.inr bound, reconcile_adopted c own, fun _ => ⟨_, .refl, bound⟩⟩

theorem loadable_dropped (w : World) : (dropped w).store.Loadable := by
  intro kid named
  cases named

theorem converges_dropped {w : World} (c : Circumstances) (bare : heldSlots w = []) :
    Converges protocol c w (dropped w) := by
  refine ⟨.inl ⟨rfl, rfl⟩, ?_, ?_⟩
  · have same : ownSlots (dropped w).record (localKids (dropped w)) w.server.snapshot = [] := by
      have held : heldSlots (dropped w) = heldSlots w := rfl
      rw [← bare, ← held]
      exact @ownSlots_unbound (dropped w) rfl
    rw [reconcile_eq c (loadable_dropped w), ownSlot, same]
    exact dropBinding_kept c fun id recorded => nomatch recorded
  · rintro ⟨slot, active, stored⟩
    have held : slot ∈ heldSlots w := mem_heldSlots.mpr ⟨active, stored⟩
    rw [bare] at held
    cases held

theorem converges_kept {w : World} (c : Circumstances) (loadable : w.store.Loadable)
    (unbound : w.record.controllerId = none) (bare : heldSlots w = [])
    (idle : w.store.active = none) : Converges protocol c w w := by
  refine ⟨.inl ⟨unbound, idle⟩, ?_, ?_⟩
  · rw [reconcile_eq c loadable, ownSlot, ownSlots_unbound unbound, bare]
    exact dropBinding_kept c fun id recorded => by simp [unbound] at recorded
  · rintro ⟨slot, active, stored⟩
    have held : slot ∈ heldSlots w := mem_heldSlots.mpr ⟨active, stored⟩
    rw [bare] at held
    cases held

theorem ambiguous_not_converges {c : Circumstances} {w w' : World} (ambiguous : Ambiguous w')
    (server : w'.server = w.server) (store : ∀ kid, w'.store.Stored kid ↔ w.store.Stored kid) :
    ¬ Converges protocol c w w' := by
  intro converges
  have some_held : heldSlots w' ≠ [] := by
    intro bare
    have several := ambiguous.2
    rw [bare] at several
    simp at several
  obtain ⟨slot, member⟩ := List.exists_mem_of_ne_nil _ some_held
  obtain ⟨active, stored⟩ := mem_heldSlots.mp member
  rw [server] at active
  obtain ⟨w'', reruns, bound⟩ := converges.bindable ⟨slot, active, (store slot.kid).mp stored⟩
  exact ambiguous_never_bound protocol ambiguous reruns bound

theorem ownSlot_recorded {w : World} {id : ControllerId} (recorded : w.record.controllerId = some id)
    (held : ∃ slot ∈ heldSlots w, slot.controllerId = id) :
    ∃ slot, ownSlot w.record (localKids w) w.server.snapshot = some slot := by
  obtain ⟨slot, member, same⟩ := held
  have own : slot ∈ ownSlots w.record (localKids w) w.server.snapshot := by
    rw [ownSlots_held]
    exact List.mem_filter.mpr ⟨member, by simp [recorded, same]⟩
  unfold ownSlot
  cases slots : ownSlots w.record (localKids w) w.server.snapshot with
  | nil => simp [slots] at own
  | cons first more => exact ⟨first, by simp [recorded]⟩

theorem ownSlot_recorded_none {w : World} {id : ControllerId}
    (recorded : w.record.controllerId = some id)
    (foreign : ¬ ∃ slot ∈ heldSlots w, slot.controllerId = id) :
    ownSlot w.record (localKids w) w.server.snapshot = none := by
  have none_own : ownSlots w.record (localKids w) w.server.snapshot = [] := by
    rw [ownSlots_held]
    apply List.filter_eq_nil_iff.mpr
    intro slot member matching
    have same : slot.controllerId = id := by
      have all := of_decide_eq_true matching
      exact (all id recorded).symm
    exact foreign ⟨slot, member, same⟩
  unfold ownSlot
  rw [none_own]

theorem ownSlot_single {w : World} {slot : ControllerSlotView}
    (unbound : w.record.controllerId = none) (single : heldSlots w = [slot]) :
    ownSlot w.record (localKids w) w.server.snapshot = some slot := by
  unfold ownSlot
  rw [ownSlots_unbound unbound, single]
  simp

theorem several_held {w : World} (some_held : heldSlots w ≠ [])
    (several : (heldSlots w).length ≠ 1) : 2 ≤ (heldSlots w).length := by
  have positive := List.length_pos_iff.mpr some_held
  omega

/-- What is dropped while a single other slot is held is adopted by the next reconciliation. -/
theorem dropped_not_lasting {w : World} {slot : ControllerSlotView} (c : Circumstances)
    (single : heldSlots w = [slot]) :
    reconcile c (dropped w) w.server.snapshot ≠ (.ok none, dropped w) := by
  intro lasting
  have held : heldSlots (dropped w) = [slot] := single
  have own := @ownSlot_single (dropped w) slot rfl held
  obtain ⟨active, inside, -⟩ := mem_ownSlots.mp (ownSlot_mem own)
  obtain ⟨report, adopts, nothing⟩ := adoptSlot_exec c active (mem_localKids.mp inside)
  have equation := @reconcile_eq (dropped w) w.server.snapshot c (loadable_dropped w)
  have own' : ownSlot (dropped w).record (localKids (dropped w)) w.server.snapshot = some slot := own
  rw [own', lasting] at equation
  have reported : report = none := by
    have same := congrArg Prod.fst (equation.trans adopts)
    cases same
    rfl
  exact (nothing.mp reported).1 fun named => nomatch named

theorem recorded_converges_iff {w w' : World} {id : ControllerId} {report : Option String}
    (c : Circumstances) (recorded : w.record.controllerId = some id)
    (run : reconcile c w w.server.snapshot = (.ok report, w')) :
    Converges protocol c w w' ↔ (∃ slot ∈ heldSlots w, slot.controllerId = id) ∨
      (∀ slot ∈ w.server.snapshot.activeSlots, slot.controllerId ≠ id) ∧ heldSlots w = [] := by
  rw [reconcile_eq c (reconcile_loadable run)] at run
  by_cases held : ∃ slot ∈ heldSlots w, slot.controllerId = id
  · obtain ⟨slot, own⟩ := ownSlot_recorded recorded held
    obtain ⟨active, inside, -⟩ := mem_ownSlots.mp (ownSlot_mem own)
    obtain ⟨_, adopts, -⟩ := adoptSlot_exec c active (mem_localKids.mp inside)
    simp only [own, adopts] at run
    cases run
    exact iff_of_true (converges_adopted protocol c own) (.inl held)
  · simp only [ownSlot_recorded_none recorded held] at run
    by_cases listed : ∃ slot ∈ w.server.snapshot.activeSlots, slot.controllerId = id
    · -- the controller is active under a key that is not stored
      rw [dropBinding_kept c fun id' same => by cases recorded.symm.trans same; exact listed] at run
      cases run
      refine iff_of_false ?_ ?_
      · intro converges
        rcases converges.settled with ⟨unbound, -⟩ | ⟨slot, active, named, -, stored⟩
        · rw [recorded] at unbound
          cases unbound
        · rw [recorded] at named
          cases named
          exact held ⟨slot, mem_heldSlots.mpr ⟨active, stored⟩, rfl⟩
      · rintro (own | ⟨gone, -⟩)
        · exact held own
        · obtain ⟨slot, active, same⟩ := listed
          exact gone slot active same
    · have gone : ∀ slot ∈ w.server.snapshot.activeSlots, slot.controllerId ≠ id :=
        fun slot active same => listed ⟨slot, active, same⟩
      obtain ⟨_, drops⟩ := dropBinding_dropped c recorded gone
      rw [drops] at run
      cases run
      by_cases bare : heldSlots w = []
      · exact iff_of_true (converges_dropped protocol c bare) (.inr ⟨gone, bare⟩)
      · refine iff_of_false ?_ fun determined => determined.elim held fun both => bare both.2
        by_cases single : (heldSlots w).length = 1
        · obtain ⟨slot, only⟩ := List.length_eq_one_iff.mp single
          exact fun converges => dropped_not_lasting c only converges.lasting
        · exact ambiguous_not_converges protocol ⟨rfl, several_held bare single⟩ rfl fun _ => Iff.rfl

theorem unbound_converges_iff {w w' : World} {report : Option String} (c : Circumstances)
    (unbound : w.record.controllerId = none)
    (run : reconcile c w w.server.snapshot = (.ok report, w')) :
    Converges protocol c w w' ↔
      (heldSlots w).length = 1 ∨ heldSlots w = [] ∧ w.store.active = none := by
  have loadable := reconcile_loadable run
  rw [reconcile_eq c loadable] at run
  by_cases single : (heldSlots w).length = 1
  · obtain ⟨slot, only⟩ := List.length_eq_one_iff.mp single
    have own := ownSlot_single unbound only
    obtain ⟨active, inside, -⟩ := mem_ownSlots.mp (ownSlot_mem own)
    obtain ⟨_, adopts, -⟩ := adoptSlot_exec c active (mem_localKids.mp inside)
    simp only [own, adopts] at run
    cases run
    exact iff_of_true (converges_adopted protocol c own) (.inl single)
  · have kept := @dropBinding_kept w w.server.snapshot c
      fun id recorded => by simp [unbound] at recorded
    by_cases bare : heldSlots w = []
    · simp only [ownSlot, ownSlots_unbound unbound, bare, kept] at run
      cases run
      constructor
      · intro converges
        rcases converges.settled with ⟨-, idle⟩ | ⟨slot, -, named, -⟩
        · exact .inr ⟨bare, idle⟩
        · rw [unbound] at named
          cases named
      · rintro (one | ⟨-, idle⟩)
        · exact absurd one single
        · exact converges_kept protocol c loadable unbound bare idle
    · have ambiguous : Ambiguous w := ⟨unbound, several_held bare single⟩
      simp only [ambiguous_own ambiguous, kept] at run
      cases run
      exact iff_of_false (ambiguous_not_converges protocol ambiguous rfl fun _ => Iff.rfl)
        fun determined => determined.elim single fun both => bare both.1

/-! ## Reachable states -/

/-- A run of any of the flows, however it ends. -/
inductive FlowRun : World → World → Prop where
  | rerun {w w' : World} (rerun : Rerun protocol w w') : FlowRun w w'
  | revoke (w : World) (controllerId : ControllerId) (script : World.Script) :
    FlowRun w (w.after (revokeFlow w.record controllerId) script)
  | slots (w : World) (script : World.Script) : FlowRun w (w.after (slotsFlow w.record) script)
  | recover (w : World) (oldSecretText label : String) (script : World.Script) :
    FlowRun w (w.after
      (recoverControllerIdentity protocol w.record.deploymentId oldSecretText label) script)

/-- From a registered instance without keys, through runs of the flows and whatever happens
at the server between them. -/
inductive Reached : World → Prop where
  | registered (record : InstanceRecord) (server : Server) (unbound : record.controllerId = none) :
    Reached ⟨⟨[], none, none, none, none⟩, record, server, [], []⟩
  | flow {w w' : World} (reached : Reached w) (run : FlowRun protocol w w') : Reached w'
  | server {w : World} (reached : Reached w) (server : Server) (undecided : List Submission) :
    Reached { w with server, undecided }

/-- Secrets are their own display and derive themselves. -/
def exampleProtocol : RecoveryProtocol where
  parseRecoverySecret := .ok
  formatRecoverySecret secret := secret
  recoveryPublicKey _ secret := secret
  recoveryKid publicKey := publicKey
  validateProposal _ := .ok ()
  signAllocation _ _ _ := "allocation"
  signChallenge _ _ _ := "signature"

/-- The server takes a submission and every other call works. -/
def exampleCircumstances (kid : Kid) (controllerId : ControllerId) : Circumstances where
  fault := none
  minted := ⟨kid, "public-" ++ kid⟩
  secret := "secret"
  nonce := "nonce"
  token := "fresh-approval-token"
  issued := ⟨"challenge", "challenge-nonce"⟩
  verdict := .taken
  assigned := ⟨controllerId, 0, 1⟩

def exampleWorld : World where
  store := ⟨[], none, none, none, none⟩
  record := ⟨"production", "https://auth.example.com", "deploy-alpha", none, none⟩
  server := ⟨"deploy-alpha", 3, [], none, []⟩
  undecided := []
  held := []

def exampleBound : World :=
  exampleWorld.after (bindFlow exampleProtocol exampleWorld.record "ops")
    fun _ => exampleCircumstances "first" "A"

def exampleTwice : World :=
  exampleBound.after (addFlow exampleBound.record "laptop")
    fun _ => exampleCircumstances "second" "B"

/-- Another administrator revokes the controller that was added last. -/
def exampleRevoked : World :=
  { exampleTwice with server := ⟨"deploy-alpha", 3,
      [⟨"deploy-alpha", "A", "ops", "first", 0, .active⟩,
        ⟨"deploy-alpha", "B", "laptop", "second", 0, .revoked⟩], some "secret", []⟩ }

theorem exampleRevoked_reached : Reached exampleProtocol exampleRevoked := by
  have start : Reached exampleProtocol exampleWorld := .registered _ _ rfl
  have bound : Reached exampleProtocol exampleBound := .flow start (.rerun (.bind _ "ops" _))
  have twice : Reached exampleProtocol exampleTwice := .flow bound (.rerun (.add _ "laptop" _))
  exact .server twice _ exampleTwice.undecided

/-- A reconciliation settles the binding exactly when the record and the held slots determine
it. -/
theorem reconciliation_converges_iff (c : Circumstances) {w w' : World} {report : Option String}
    (run : reconcile c w w.server.snapshot = (.ok report, w')) :
    Converges protocol c w w' ↔ Determined w := by
  unfold Determined
  cases recorded : w.record.controllerId with
  | some id => exact recorded_converges_iff protocol c recorded run
  | none => exact unbound_converges_iff protocol c recorded run

/-- After a bind nothing is left to reconcile. -/
theorem bound_instance_converges :
    Converges exampleProtocol (exampleCircumstances "" "") exampleBound exampleBound := by
  have run : reconcile (exampleCircumstances "" "") exampleBound exampleBound.server.snapshot =
      (.ok none, exampleBound) := by decide
  refine (reconciliation_converges_iff exampleProtocol _ run).mpr ?_
  have recorded : exampleBound.record.controllerId = some "A" := by decide
  unfold Determined
  rw [recorded]
  exact .inl (by decide)

/-- The first reconciliation clears the binding and the second one adopts the older slot. -/
theorem cleared_binding_adopted_again :
    ∃ w w' report, Reached exampleProtocol w ∧
      reconcile (exampleCircumstances "" "") w w.server.snapshot = (.ok report, w') ∧
      ¬ Converges exampleProtocol (exampleCircumstances "" "") w w' := by
  have recorded : exampleRevoked.record.controllerId = some "B" := by decide
  have single : heldSlots exampleRevoked = [⟨"deploy-alpha", "A", "ops", "first", 0, .active⟩] := by
    decide
  have gone : ∀ slot ∈ exampleRevoked.server.snapshot.activeSlots, slot.controllerId ≠ "B" := by
    decide
  have foreign : ¬ ∃ slot ∈ heldSlots exampleRevoked, slot.controllerId = "B" := by
    rw [single]
    decide
  have loadable : exampleRevoked.store.Loadable := by
    intro kid named
    have second : exampleRevoked.store.active = some "second" := by decide
    cases named.symm.trans second
    decide
  obtain ⟨report, drops⟩ := dropBinding_dropped (exampleCircumstances "" "") recorded gone
  refine ⟨exampleRevoked, dropped exampleRevoked, some report, exampleRevoked_reached, ?_, ?_⟩
  · rw [reconcile_eq _ loadable, ownSlot_recorded_none recorded foreign]
    exact drops
  · exact fun converges => dropped_not_lasting _ single converges.lasting

end NazoAuthCtl.ControllerBinding
