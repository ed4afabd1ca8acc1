import NazoAuthCtl.ControllerFlows

/-!
# What a flow proposes and what it retires

A flow proposes a key only when the store has just shown it that key, answers a challenge only
as it was issued or saved, and retires a key only when a reply of the server made it idle.
-/

set_option autoImplicit false
set_option linter.all false

namespace NazoAuthCtl.ControllerConduct
open CallFlow.Flow hiding pure bind call perform attempt
open ControllerStore ControllerWorld ControllerFlows

/-- What the replies since the start of a flow have told it: the keys that it has read, the
answers that it holds, and the keys that no slot stands for as far as it can see. -/
structure Known where
  keys : Kid → Prop
  answers : RecoveryAnswerBody → Prop
  idle : Kid → Prop

def Known.nothing : Known := ⟨fun _ => False, fun _ => False, fun _ => False⟩

def allow : Call → Known → Prop
  | .commitSlot body, known => known.keys body.kid
  | .rotateSlot body, known => known.keys body.kid
  | .issueRecoveryChallenge body, known => known.keys body.kid
  | .submitRecoveryAnswer body, known => known.answers body
  | .writePendingRecovery pending, known => known.answers pending.answer
  | .retireKid kid, known => known.idle kid
  | _, _ => True

def told : (c : Call) → Except Failure (Reply c) → Known → Known
  | .listKeys, r, known =>
    { known with keys := fun kid => ∃ summaries, r = .ok summaries ∧ kid ∈ summaries.map (·.kid) }
  | .publicKey kid, r, known =>
    { known with keys := fun other => ∃ publicKey, r = .ok publicKey ∧ other = kid }
  | .generateCandidate, r, known =>
    { known with keys := fun kid => ∃ summary, r = .ok summary ∧ kid = summary.kid }
  | .issueRecoveryChallenge _, r, known =>
    { known with answers := fun body => ∃ issued, r = .ok issued ∧
        body.challengeId = issued.challengeId }
  | .readPendingRecovery, r, known =>
    { known with answers := fun body => ∃ pending, r = .ok (some pending) ∧
        body = pending.answer }
  | .retireKid _, _, known => { known with keys := fun _ => False, answers := fun _ => False }
  | .listSlots, r, known =>
    { known with idle := fun kid => ∃ snapshot, r = .ok snapshot ∧
        ¬ SlotsSnapshot.lists snapshot kid }
  | .revokeSlot _, r, known =>
    { known with idle := fun kid => ∃ slot, r = .ok slot ∧ slot.status = .revoked ∧
        kid = slot.kid }
  | .rotateSlot _, r, known => { known with idle := fun _ => ∃ slot, r = .ok slot }
  | .submitRecoveryAnswer _, r, known =>
    { known with idle := fun _ => ∃ e, r = .error (.api e) ∧ e.unanswered = false }
  | _, _, known => known

def rules : CallFlow.Flow.Rules Call Reply Failure Known := ⟨allow, told⟩

variable {α : Type} {Q : α → Known → Prop} {known : Known} (protocol : RecoveryProtocol)

/-- A flow that keeps to the rules whatever it has been told before. -/
abbrev Careful (f : Flow α) : Prop :=
  ∀ known : Known, f.Obeys rules (fun _ _ => True) known

@[simp] theorem obeys_call (c : Call) {Q : Reply c → Known → Prop} :
    (ControllerWorld.perform c).Obeys rules Q known ↔
      allow c known ∧ ∀ a, Q a (told c (.ok a) known) :=
  obeys_perform c

@[simp] theorem obeys_tried (c : Call) {Q : Except Failure (Reply c) → Known → Prop} :
    (ControllerWorld.attempt c).Obeys rules Q known ↔
      allow c known ∧ ∀ r, Q r (told c r known) := Iff.rfl

/-! ## Keys -/

theorem selected_mem {summaries : List ControllerKeySummary} {snapshot : SlotsSnapshot}
    {summary : ControllerKeySummary}
    (selected : selectPendingCandidate summaries snapshot = some summary) :
    summary ∈ summaries := by
  have member := List.mem_of_find?_eq_some selected
  exact List.mem_reverse.mp (List.mem_filter.mp member).1

theorem candidateKey_obeys {Q : KeyRecord → Known → Prop} (snapshot : SlotsSnapshot)
    (proposes : ∀ key known', known'.keys key.kid → Q key known') :
    (candidateKey snapshot).Obeys rules Q known := by
  refine (obeys_bind _ _).mpr ((obeys_call _).mpr ⟨trivial, fun summaries => ?_⟩)
  cases selected : selectPendingCandidate summaries snapshot with
  | some summary =>
    dsimp only
    exact proposes _ _ ⟨summaries, rfl, List.mem_map_of_mem (selected_mem selected)⟩
  | none =>
    dsimp only
    refine (obeys_bind _ _).mpr ((obeys_call _).mpr ⟨trivial, fun summary => ?_⟩)
    exact proposes _ _ ⟨summary, rfl, rfl⟩

/-! ## Reconciliation -/

theorem persistBindingFields_obeys {Q : Unit → Known → Prop} (deploymentId : DeploymentId)
    (controllerId : Option ControllerId) (holds : Q () known) :
    (persistBindingFields deploymentId controllerId).Obeys rules Q known :=
  (obeys_call _).mpr ⟨trivial, fun _ => holds⟩

theorem finishActivation_obeys (record : InstanceRecord) (kid : Kid) (slot : ControllerSlotView)
    {Q : String → Known → Prop} (holds : ∀ report, Q report known) :
    (finishActivation record kid slot).Obeys rules Q known := by
  refine (obeys_bind _ _).mpr (persistBindingFields_obeys _ _ ?_)
  refine (obeys_bind _ _).mpr ((obeys_call _).mpr ⟨trivial, fun _ => ?_⟩)
  exact holds _

theorem retireAll_obeys (kids : List Kid) {known : Known} (idle : ∀ kid ∈ kids, known.idle kid) :
    (retireAll kids).Obeys rules (fun _ _ => True) known := by
  induction kids generalizing known with
  | nil => trivial
  | cons kid kids ih =>
    refine (obeys_bind _ _).mpr ((obeys_tried _).mpr ⟨idle kid (by simp), fun r => ?_⟩)
    refine obeys_andThen (ih ?_) fun _ _ => trivial
    intro other member
    exact idle other (List.mem_cons_of_mem _ member)

theorem adoptSlot_obeys (record : InstanceRecord) (localKids : List Kid) (previous : Option Kid)
    (snapshot : SlotsSnapshot) (slot : ControllerSlotView) {known : Known}
    (idle : ∀ kid, ¬ SlotsSnapshot.lists snapshot kid → known.idle kid) :
    (adoptSlot record localKids previous snapshot slot).Obeys rules (fun _ _ => True) known := by
  have retires (g : List Kid → Flow (Option String)) (quiet : ∀ retired, Careful (g retired)) :
      (retireAll (unlistedKids localKids snapshot) >>= g).Obeys rules (fun _ _ => True) known := by
    refine obeys_andThen (retireAll_obeys _ ?_) fun retired known' => quiet retired known'
    intro kid member
    exact idle kid (of_decide_eq_true (List.mem_filter.mp member).2)
  have report (p : Prop) [Decidable p] (a b : Option String) :
      Careful (if p then pure a else pure b) := by
    intro known'
    split
    · trivial
    · trivial
  refine (obeys_bind _ _).mpr ((obeys_onlyIf _).mpr ⟨fun _ => ?_, fun _ => ?_⟩)
  · refine persistBindingFields_obeys _ _ ?_
    refine (obeys_bind _ _).mpr ((obeys_onlyIf _).mpr ⟨fun _ => ?_, fun _ => ?_⟩)
    · exact (obeys_call _).mpr ⟨trivial, fun _ => retires _ fun _ => report _ _ _⟩
    · exact retires _ fun _ => report _ _ _
  · refine (obeys_bind _ _).mpr ((obeys_onlyIf _).mpr ⟨fun _ => ?_, fun _ => ?_⟩)
    · exact (obeys_call _).mpr ⟨trivial, fun _ => retires _ fun _ => report _ _ _⟩
    · exact retires _ fun _ => report _ _ _

theorem dropBinding_obeys (record : InstanceRecord) (snapshot : SlotsSnapshot) :
    Careful (dropBinding record snapshot) := by
  intro known
  unfold dropBinding
  split
  · trivial
  · split
    · trivial
    · refine (obeys_bind _ _).mpr (persistBindingFields_obeys _ _ ?_)
      refine (obeys_bind _ _).mpr ((obeys_call _).mpr ⟨trivial, fun _ => trivial⟩)

theorem reconcile_obeys (record : InstanceRecord) (snapshot : SlotsSnapshot)
    (idle : ∀ kid, ¬ SlotsSnapshot.lists snapshot kid → known.idle kid) :
    (reconcileFromSnapshot record snapshot).Obeys rules (fun _ _ => True) known := by
  refine (obeys_bind _ _).mpr ((obeys_call _).mpr ⟨trivial, fun summaries => ?_⟩)
  refine (obeys_bind _ _).mpr ((obeys_call _).mpr ⟨trivial, fun previous => ?_⟩)
  split
  · exact adoptSlot_obeys _ _ _ _ _ idle
  · exact dropBinding_obeys _ _ _

/-- The server's list makes the keys that it leaves out idle. -/
theorem listed_obeys {f : SlotsSnapshot → Flow α}
    (obeys : ∀ snapshot known', (∀ kid, ¬ SlotsSnapshot.lists snapshot kid → known'.idle kid) →
      (f snapshot).Obeys rules Q known') :
    (ControllerWorld.perform .listSlots >>= f).Obeys rules Q known := by
  refine (obeys_bind _ _).mpr ((obeys_call _).mpr ⟨trivial, fun snapshot => ?_⟩)
  exact obeys snapshot _ fun kid unlisted => ⟨snapshot, rfl, unlisted⟩

/-! ## Bind -/

theorem loadPendingBindRecovery_obeys (deploymentId : DeploymentId) :
    Careful (loadPendingBindRecovery deploymentId) := by
  intro known
  refine (obeys_bind _ _).mpr ((obeys_call _).mpr ⟨trivial, fun pending => ?_⟩)
  cases pending with
  | none => trivial
  | some pending => exact (obeys_bind _ _).mpr ((obeys_require _).mpr fun _ => trivial)

theorem bindKey_obeys {Q : KeyRecord → Known → Prop} (label : String) (snapshot : SlotsSnapshot)
    (pending : Option PendingBindRecovery)
    (proposes : ∀ key known', known'.keys key.kid → Q key known') :
    (bindKey label snapshot pending).Obeys rules Q known := by
  cases pending with
  | none => exact candidateKey_obeys snapshot proposes
  | some pending =>
    refine (obeys_bind _ _).mpr ((obeys_require _).mpr fun _ => ?_)
    refine (obeys_bind _ _).mpr ((obeys_require _).mpr fun _ => ?_)
    refine (obeys_bind _ _).mpr ((obeys_call _).mpr ⟨trivial, fun publicKey => ?_⟩)
    exact proposes _ _ ⟨publicKey, rfl, rfl⟩

theorem bindMaterial_obeys {Q : RecoveryMaterial → Known → Prop} (record : InstanceRecord)
    (label : String) (kid : Kid) (pending : Option PendingBindRecovery)
    (holds : ∀ material, Q material known) :
    (bindMaterial protocol record label kid pending).Obeys rules Q known := by
  cases pending with
  | some pending => exact (obeys_ofExcept _).mpr fun material _ => holds material
  | none =>
    refine (obeys_bind _ _).mpr ((obeys_bind _ _).mpr ((obeys_call _).mpr
      ⟨trivial, fun secret => ?_⟩))
    refine (obeys_bind _ _).mpr ((obeys_call _).mpr ⟨trivial, fun _ => ?_⟩)
    exact holds _

theorem bindCommit_obeys (record : InstanceRecord) (label : String) (key : KeyRecord)
    (material : RecoveryMaterial) (read : known.keys key.kid) :
    (bindCommit record label key material).Obeys rules (fun _ _ => True) known := by
  refine (obeys_bind _ _).mpr ((obeys_call _).mpr ⟨trivial, fun token => ?_⟩)
  refine (obeys_bind _ _).mpr ((obeys_call _).mpr ⟨trivial, fun _ => ?_⟩)
  refine (obeys_bind _ _).mpr ((obeys_call _).mpr ⟨read, fun slot => ?_⟩)
  refine (obeys_bind _ _).mpr ((obeys_ofExcept _).mpr fun _ _ => ?_)
  refine (obeys_bind _ _).mpr (finishActivation_obeys _ _ _ fun report => ?_)
  exact (obeys_bind _ _).mpr ((obeys_call _).mpr ⟨trivial, fun _ => trivial⟩)

theorem bindPropose_obeys (record : InstanceRecord) (label : String) (snapshot : SlotsSnapshot) :
    Careful (bindPropose protocol record label snapshot) := by
  intro known
  refine (obeys_bind _ _).mpr ((obeys_require _).mpr fun _ => ?_)
  refine obeys_andThen (loadPendingBindRecovery_obeys _ _) fun pending known' => ?_
  refine (obeys_bind _ _).mpr (bindKey_obeys _ _ _ fun key known'' read => ?_)
  refine (obeys_bind _ _).mpr (bindMaterial_obeys _ _ _ _ _ fun material => ?_)
  exact bindCommit_obeys _ _ _ _ read

theorem bindFlow_obeys (record : InstanceRecord) (label : String) :
    Careful (bindFlow protocol record label) := by
  intro known
  refine (obeys_bind _ _).mpr ((obeys_ofExcept _).mpr fun _ _ => ?_)
  refine (obeys_bind _ _).mpr ((obeys_call _).mpr ⟨trivial, fun _ => ?_⟩)
  refine listed_obeys fun snapshot known' idle => ?_
  refine obeys_andThen (reconcile_obeys _ _ idle) fun report known'' => ?_
  cases report with
  | some report =>
    exact (obeys_bind _ _).mpr ((obeys_call _).mpr ⟨trivial, fun _ => trivial⟩)
  | none => exact bindPropose_obeys _ _ _ _ _

/-! ## Rotate -/

theorem rotateActivate_obeys (record : InstanceRecord) (kid : Kid) (slot : ControllerSlotView)
    (idle : ∀ kid, known.idle kid) :
    (rotateActivate record kid slot).Obeys rules (fun _ _ => True) known := by
  refine (obeys_bind _ _).mpr ((obeys_call _).mpr ⟨trivial, fun previous => ?_⟩)
  refine (obeys_bind _ _).mpr (finishActivation_obeys _ _ _ fun report => ?_)
  cases previous with
  | none => trivial
  | some previous =>
    dsimp only
    split
    · trivial
    · exact (obeys_bind _ _).mpr ((obeys_tried _).mpr ⟨idle previous, fun _ => trivial⟩)

theorem rotatePropose_obeys (record : InstanceRecord) (controllerId : ControllerId)
    (label : Option String) (snapshot : SlotsSnapshot) :
    Careful (rotatePropose record controllerId label snapshot) := by
  intro known
  unfold rotatePropose
  split
  · refine (obeys_bind _ _).mpr ?_
    refine (obeys_bind _ _).mpr ((obeys_ofExcept _).mpr fun _ _ => ?_)
    refine (obeys_bind _ _).mpr (candidateKey_obeys _ fun key known' read => ?_)
    refine (obeys_bind _ _).mpr ((obeys_call _).mpr ⟨trivial, fun token => ?_⟩)
    refine (obeys_bind _ _).mpr ((obeys_call _).mpr ⟨read, fun slot => ?_⟩)
    refine (obeys_bind _ _).mpr ((obeys_ofExcept _).mpr fun _ _ => ?_)
    refine (obeys_bind _ _).mpr ((obeys_require _).mpr fun _ => ?_)
    exact rotateActivate_obeys _ _ _ fun kid => ⟨slot, rfl⟩
  · trivial

theorem rotateFlow_obeys (record : InstanceRecord) (label : Option String) :
    Careful (rotateFlow record label) := by
  intro known
  refine (obeys_bind _ _).mpr ((obeys_ofExcept _).mpr fun controllerId _ => ?_)
  refine listed_obeys fun snapshot known' idle => ?_
  refine obeys_andThen (reconcile_obeys _ _ idle) fun report known'' => ?_
  cases report with
  | some report => trivial
  | none => exact rotatePropose_obeys _ _ _ _ _

/-! ## Add -/

theorem loadPendingAdd_obeys (deploymentId : DeploymentId) {Q : Option PendingAdd → Known → Prop}
    (holds : ∀ pending known', known'.idle = known.idle → Q pending known') :
    (loadPendingAdd deploymentId).Obeys rules Q known := by
  refine (obeys_bind _ _).mpr ((obeys_call _).mpr ⟨trivial, fun pending => ?_⟩)
  cases pending with
  | none => exact holds _ _ rfl
  | some pending =>
    refine (obeys_bind _ _).mpr ((obeys_require _).mpr fun _ => ?_)
    refine (obeys_bind _ _).mpr ((obeys_ofExcept _).mpr fun _ _ => ?_)
    refine (obeys_bind _ _).mpr ((obeys_call _).mpr ⟨trivial, fun publicKey => ?_⟩)
    exact holds _ _ rfl

theorem addAdopt_obeys (record : InstanceRecord) (pending : PendingAdd)
    (slot : ControllerSlotView) : Careful (addAdopt record pending slot) := by
  intro known
  refine (obeys_bind _ _).mpr ((obeys_ofExcept _).mpr fun _ _ => ?_)
  refine (obeys_bind _ _).mpr (finishActivation_obeys _ _ _ fun report => ?_)
  exact (obeys_bind _ _).mpr ((obeys_call _).mpr ⟨trivial, fun _ => trivial⟩)

theorem addKey_obeys {Q : KeyRecord → Known → Prop} (snapshot : SlotsSnapshot)
    (pending : Option PendingAdd)
    (proposes : ∀ key known', known'.keys key.kid → Q key known') :
    (addKey snapshot pending).Obeys rules Q known := by
  cases pending with
  | none => exact candidateKey_obeys snapshot proposes
  | some pending =>
    refine (obeys_bind _ _).mpr ((obeys_call _).mpr ⟨trivial, fun publicKey => ?_⟩)
    exact proposes _ _ ⟨publicKey, rfl, rfl⟩

theorem addCommit_obeys (record : InstanceRecord) (label : String) (key : KeyRecord)
    (read : known.keys key.kid) :
    (addCommit record label key).Obeys rules (fun _ _ => True) known := by
  refine (obeys_bind _ _).mpr ((obeys_call _).mpr ⟨trivial, fun token => ?_⟩)
  refine (obeys_bind _ _).mpr ((obeys_call _).mpr ⟨trivial, fun _ => ?_⟩)
  refine (obeys_bind _ _).mpr ((obeys_call _).mpr ⟨read, fun slot => ?_⟩)
  refine (obeys_bind _ _).mpr ((obeys_ofExcept _).mpr fun _ _ => ?_)
  refine (obeys_bind _ _).mpr (finishActivation_obeys _ _ _ fun report => ?_)
  exact (obeys_bind _ _).mpr ((obeys_call _).mpr ⟨trivial, fun _ => trivial⟩)

theorem addReconcile_obeys (record : InstanceRecord) (label : String) (snapshot : SlotsSnapshot)
    (pending : Option PendingAdd)
    (idle : ∀ kid, ¬ SlotsSnapshot.lists snapshot kid → known.idle kid) :
    (addReconcile record label snapshot pending).Obeys rules (fun _ _ => True) known := by
  refine obeys_andThen (reconcile_obeys _ _ idle) fun report known' => ?_
  cases report with
  | some report => trivial
  | none =>
    refine (obeys_bind _ _).mpr ((obeys_require _).mpr fun _ => ?_)
    refine (obeys_bind _ _).mpr (addKey_obeys _ _ fun key known'' read => ?_)
    exact addCommit_obeys _ _ _ read

theorem addFlow_obeys (record : InstanceRecord) (label : String) :
    Careful (addFlow record label) := by
  intro known
  refine (obeys_bind _ _).mpr ((obeys_ofExcept _).mpr fun _ _ => ?_)
  refine (obeys_bind _ _).mpr ((obeys_ofExcept _).mpr fun _ _ => ?_)
  refine (obeys_bind _ _).mpr ((obeys_call _).mpr ⟨trivial, fun _ => ?_⟩)
  refine listed_obeys fun snapshot known' idle => ?_
  refine (obeys_bind _ _).mpr (loadPendingAdd_obeys _ fun pending known'' same => ?_)
  rw [← same] at idle
  cases pending with
  | none => exact addReconcile_obeys _ _ _ _ idle
  | some pending =>
    unfold addResume
    split
    · trivial
    · split
      · exact addAdopt_obeys _ _ _ _
      · refine (obeys_bind _ _).mpr ((obeys_require _).mpr fun _ => ?_)
        exact addReconcile_obeys _ _ _ _ idle

/-! ## Revoke and the slots view -/

theorem revokeCleanup_obeys (record : InstanceRecord) (controllerId : ControllerId)
    (revoked : ControllerSlotView) (idle : known.idle revoked.kid) :
    (revokeCleanup record controllerId revoked).Obeys rules (fun _ _ => True) known := by
  unfold revokeCleanup
  split
  · refine (obeys_bind _ _).mpr (persistBindingFields_obeys _ _ ?_)
    exact (obeys_bind _ _).mpr ((obeys_call _).mpr ⟨trivial, fun _ => trivial⟩)
  · refine (obeys_bind _ _).mpr ((obeys_call _).mpr ⟨trivial, fun summaries => ?_⟩)
    split
    · exact (obeys_bind _ _).mpr ((obeys_call _).mpr ⟨idle, fun _ => trivial⟩)
    · trivial

theorem revokeFlow_obeys (record : InstanceRecord) (controllerId : ControllerId) :
    Careful (revokeFlow record controllerId) := by
  intro known
  refine (obeys_bind _ _).mpr ((obeys_call _).mpr ⟨trivial, fun snapshot => ?_⟩)
  split
  · refine (obeys_bind _ _).mpr ?_
    refine (obeys_bind _ _).mpr ((obeys_require _).mpr fun _ => ?_)
    refine (obeys_bind _ _).mpr ((obeys_call _).mpr ⟨trivial, fun token => ?_⟩)
    refine (obeys_bind _ _).mpr ((obeys_call _).mpr ⟨trivial, fun slot => ?_⟩)
    refine (obeys_bind _ _).mpr ((obeys_require _).mpr fun terminal => ?_)
    refine obeys_andThen (revokeCleanup_obeys _ _ _ ?_) fun _ _ => trivial
    exact ⟨slot, rfl, terminal, rfl⟩
  · trivial

theorem slotsFlow_obeys (record : InstanceRecord) : Careful (slotsFlow record) := by
  intro known
  refine listed_obeys fun snapshot known' idle => ?_
  exact obeys_andThen (reconcile_obeys _ _ idle) fun _ _ => trivial

/-! ## Break-glass recovery -/

theorem finishRecovery_obeys (deploymentId : DeploymentId) (candidateKid : Kid)
    (commit : RecoveryCommitView) : Careful (finishRecovery deploymentId candidateKid commit) := by
  intro known
  refine (obeys_bind _ _).mpr ((obeys_require _).mpr fun _ => ?_)
  refine (obeys_bind _ _).mpr ((obeys_call _).mpr ⟨trivial, fun _ => ?_⟩)
  refine (obeys_bind _ _).mpr (persistBindingFields_obeys _ _ ?_)
  exact (obeys_bind _ _).mpr ((obeys_call _).mpr ⟨trivial, fun _ => trivial⟩)

theorem rejectRecovery_obeys (pending : PendingRecovery) (idle : ∀ kid, known.idle kid) :
    (rejectRecovery pending).Obeys rules (fun _ _ => True) known := by
  refine (obeys_bind _ _).mpr ((obeys_tried _).mpr ⟨idle _, fun _ => ?_⟩)
  exact (obeys_bind _ _).mpr ((obeys_tried _).mpr ⟨trivial, fun _ => trivial⟩)

theorem submitPendingRecovery_obeys (pending : PendingRecovery)
    (holds : known.answers pending.answer) :
    (submitPendingRecovery pending).Obeys rules (fun _ _ => True) known := by
  refine (obeys_bind _ _).mpr ((obeys_tried _).mpr ⟨holds, fun r => ?_⟩)
  cases r with
  | ok commit => exact finishRecovery_obeys _ _ _ _
  | error e =>
    cases e with
    | text message => trivial
    | api e =>
      dsimp only
      split
      · trivial
      · rename_i answered
        exact rejectRecovery_obeys _ fun kid => ⟨e, rfl, by simpa using answered⟩

theorem recoverPropose_obeys (deploymentId : DeploymentId) (oldSecretText label : String) :
    Careful (recoverPropose protocol deploymentId oldSecretText label) := by
  intro known
  unfold recoverPropose
  split
  · refine (obeys_bind _ _).mpr ?_
    refine (obeys_bind _ _).mpr ((obeys_bind _ _).mpr ((obeys_call _).mpr
      ⟨trivial, fun secret => ?_⟩))
    refine (obeys_bind _ _).mpr ((obeys_call _).mpr ⟨trivial, fun candidate => ?_⟩)
    dsimp only
    split
    · trivial
    · refine (obeys_bind _ _).mpr ((obeys_call _).mpr ⟨trivial, fun nonce => ?_⟩)
      refine (obeys_bind _ _).mpr ((obeys_call _).mpr ⟨⟨candidate, rfl, rfl⟩, fun issued => ?_⟩)
      refine (obeys_bind _ _).mpr ((obeys_call _).mpr ⟨trivial, fun _ => ?_⟩)
      refine (obeys_bind _ _).mpr ((obeys_call _).mpr ⟨⟨issued, rfl, rfl⟩, fun _ => ?_⟩)
      exact submitPendingRecovery_obeys _ ⟨issued, rfl, rfl⟩
  · trivial

theorem recoverControllerIdentity_obeys (deploymentId : DeploymentId)
    (oldSecretText label : String) :
    Careful (recoverControllerIdentity protocol deploymentId oldSecretText label) := by
  intro known
  refine (obeys_bind _ _).mpr ((obeys_call _).mpr ⟨trivial, fun _ => ?_⟩)
  refine (obeys_bind _ _).mpr ((obeys_bind _ _).mpr ((obeys_call _).mpr
    ⟨trivial, fun pending => ?_⟩))
  cases pending with
  | none => exact recoverPropose_obeys _ _ _ _ _
  | some pending =>
    refine (obeys_bind _ _).mpr ((obeys_require _).mpr fun _ => ?_)
    exact submitPendingRecovery_obeys _ ⟨pending, rfl, rfl⟩

end NazoAuthCtl.ControllerConduct
