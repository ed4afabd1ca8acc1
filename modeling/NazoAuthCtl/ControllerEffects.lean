import NazoAuthCtl.ControllerWorld
import NazoAuthCtl.ControllerFlows

/-!
# What a call does for a key

A key comes into an active slot only by a submission or an answer that carries it, and leaves
the store only by a retirement.
-/

set_option autoImplicit false
set_option linter.all false

namespace NazoAuthCtl.ControllerEffects
open ControllerStore ControllerWorld ControllerFlows

/-! ## What the server may come to list -/

def activeKids (server : Server) : List Kid := server.snapshot.activeSlots.map (·.kid)

/-- The challenge is undecided and proposes this key. -/
def Opens (server : Server) (challengeId : String) (kid : Kid) : Prop :=
  ∃ challenge, server.challenge challengeId = some challenge ∧ challenge.state = .issued ∧
    challenge.proposal.kid = kid

def Submits (server : Server) (kid : Kid) : Submission → Prop
  | .commit body => body.kid = kid
  | .rotate body => body.kid = kid
  | .revoke _ => False
  | .recover body => Opens server body.challengeId kid

/-- The calls that put a key before the server. -/
def Proposes (kid : Kid) : Call → Prop
  | .commitSlot body => body.kid = kid
  | .rotateSlot body => body.kid = kid
  | .issueRecoveryChallenge body => body.kid = kid
  | _ => False

/-- The calls whose reply alone says which keys are proposed next. -/
def Rereads : Call → Prop
  | .listKeys | .publicKey _ | .generateCandidate | .retireKid _ => True
  | _ => False

/-- The calls that send or save an answer. -/
def Answers (body : RecoveryAnswerBody) : Call → Prop
  | .submitRecoveryAnswer other => other = body
  | .writePendingRecovery pending => pending.answer = body
  | _ => False

def Renews : Call → Prop
  | .issueRecoveryChallenge _ | .readPendingRecovery | .retireKid _ => True
  | _ => False

def CallCarries (server : Server) (kid : Kid) (call : Call) : Prop :=
  Proposes kid call ∨ ∃ body, Answers body call ∧ Opens server body.challengeId kid

/-- The rest of the flow may put the key before the server without reading it again. -/
def Carries (server : Server) (kid : Kid) (f : Flow Unit) : Prop :=
  f.Reaches (Proposes kid) Rereads ∨
    ∃ body, f.Reaches (Answers body) Renews ∧ Opens server body.challengeId kid

theorem mem_activeKids {server : Server} {kid : Kid} :
    kid ∈ activeKids server ↔ ∃ slot ∈ server.slots, slot.status = .active ∧ slot.kid = kid := by
  simp [activeKids, SlotsSnapshot.activeSlots, Server.snapshot, and_assoc]

theorem unlisted_inactive {server : Server} {kid : Kid}
    (unlisted : ¬ SlotsSnapshot.lists server.snapshot kid) : kid ∉ activeKids server := by
  intro active
  obtain ⟨slot, member, -, same⟩ := mem_activeKids.mp active
  exact unlisted ⟨slot, member, same⟩

/-! ## What one submission makes of the server -/

theorem commitSlot_active {server : Server} {assigned : Assigned} {body : SlotCommitBody}
    {kid : Kid} (active : kid ∈ activeKids (server.commitSlot assigned body)) :
    kid ∈ activeKids server ∨ body.kid = kid := by
  obtain ⟨slot, member, status, same⟩ := mem_activeKids.mp active
  rcases List.mem_append.mp member with old | new
  · exact .inl (mem_activeKids.mpr ⟨slot, old, status, same⟩)
  · rw [List.mem_singleton.mp new] at same
    exact .inr same

theorem rotated_active {server server' : Server} {body : RotateCommitBody}
    {slot : ControllerSlotView} {kid : Kid} (rotates : server.rotateSlot body = some (slot, server'))
    (active : kid ∈ activeKids server') :
    body.kid = kid ∨ ∃ other ∈ server.slots, other.status = .active ∧ other.kid = kid ∧
      other.controllerId ≠ body.controllerId := by
  obtain ⟨found, -, same⟩ := Option.map_eq_some_iff.mp rotates
  cases same
  obtain ⟨after, member, status, same⟩ := mem_activeKids.mp active
  obtain ⟨other, listed, rfl⟩ := List.mem_map.mp member
  by_cases target : other.controllerId = body.controllerId
  · left
    simpa [Server.rotated, target] using same
  · right
    refine ⟨other, listed, ?_, ?_, target⟩
    · simpa [Server.rotated, target] using status
    · simpa [Server.rotated, target] using same

theorem revoked_active {server server' : Server} {body : RevokeCommitBody}
    {slot : ControllerSlotView} {kid : Kid} (revokes : server.revokeSlot body = some (slot, server'))
    (active : kid ∈ activeKids server') :
    ∃ other ∈ server.slots, other.status = .active ∧ other.kid = kid ∧
      other.controllerId ≠ body.controllerId := by
  obtain ⟨found, -, same⟩ := Option.map_eq_some_iff.mp revokes
  cases same
  obtain ⟨after, member, status, same⟩ := mem_activeKids.mp active
  obtain ⟨other, listed, rfl⟩ := List.mem_map.mp member
  by_cases target : other.controllerId = body.controllerId
  · simp [Server.revoked, target] at status
  · refine ⟨other, listed, ?_, ?_, target⟩
    · simpa [Server.revoked, target] using status
    · simpa [Server.revoked, target] using same

theorem recover_active {server : Server} {assigned : Assigned} {challenge : Challenge} {kid : Kid}
    (active : kid ∈ activeKids (server.recover assigned challenge)) :
    challenge.proposal.kid = kid := by
  obtain ⟨slot, member, status, same⟩ := mem_activeKids.mp active
  rcases List.mem_append.mp member with old | new
  · obtain ⟨other, -, rfl⟩ := List.mem_map.mp old
    cases status
  · rw [List.mem_singleton.mp new] at same
    exact same

theorem decideChallenge_opens {server : Server} {challengeId id : String} {state : ChallengeState}
    {kid : Kid} (final : state ≠ .issued)
    (opens : Opens (server.decideChallenge challengeId state) id kid) : Opens server id kid := by
  obtain ⟨challenge, found, issued, same⟩ := opens
  unfold Server.challenge Server.decideChallenge at found
  rw [List.find?_map] at found
  obtain ⟨before, here, rfl⟩ := Option.map_eq_some_iff.mp found
  by_cases target : before.issued.challengeId = challengeId
  · exact absurd (by simpa [target] using issued) final
  · refine ⟨before, ?_, by simpa [target] using issued, by simpa [target] using same⟩
    rw [← here]
    unfold Server.challenge
    congr 1
    funext other
    by_cases hit : other.issued.challengeId = challengeId
    · simp [hit]
    · simp [hit]

theorem take_active {server : Server} {assigned : Assigned} {submission : Submission} {kid : Kid}
    (active : kid ∈ activeKids (server.take assigned submission)) :
    kid ∈ activeKids server ∨ Submits server kid submission := by
  cases submission with
  | commit body => exact commitSlot_active active
  | rotate body =>
    unfold Server.take at active
    cases rotates : server.rotateSlot body with
    | none => exact .inl (by simpa [rotates] using active)
    | some pair =>
      simp only [rotates, Option.map_some, Option.getD_some] at active
      rcases rotated_active rotates active with new | ⟨slot, member, status, same, -⟩
      · exact .inr new
      · exact .inl (mem_activeKids.mpr ⟨slot, member, status, same⟩)
  | revoke body =>
    unfold Server.take at active
    cases revokes : server.revokeSlot body with
    | none => exact .inl (by simpa [revokes] using active)
    | some pair =>
      simp only [revokes, Option.map_some, Option.getD_some] at active
      obtain ⟨slot, member, status, same, -⟩ := revoked_active revokes active
      exact .inl (mem_activeKids.mpr ⟨slot, member, status, same⟩)
  | recover body =>
    unfold Server.take at active
    cases found : server.challenge body.challengeId with
    | none => exact .inl (by simpa [found] using active)
    | some challenge =>
      by_cases issued : challenge.state = .issued
      · simp only [found, if_pos issued] at active
        exact .inr ⟨challenge, found, issued, recover_active active⟩
      · simp only [found, if_neg issued] at active
        exact .inl active

theorem recover_opens {server : Server} {assigned : Assigned} {challenge : Challenge}
    {id : String} {kid : Kid} (opens : Opens (server.recover assigned challenge) id kid) :
    Opens server id kid :=
  @decideChallenge_opens server challenge.issued.challengeId id
    (.accepted ⟨Server.recovered assigned challenge.proposal, assigned.recoveryGeneration⟩) kid
    (by simp) opens

theorem rotateSlot_challenges {server server' : Server} {body : RotateCommitBody}
    {slot : ControllerSlotView} (rotates : server.rotateSlot body = some (slot, server')) :
    server'.challenges = server.challenges := by
  obtain ⟨found, -, same⟩ := Option.map_eq_some_iff.mp rotates
  cases same
  rfl

theorem revokeSlot_challenges {server server' : Server} {body : RevokeCommitBody}
    {slot : ControllerSlotView} (revokes : server.revokeSlot body = some (slot, server')) :
    server'.challenges = server.challenges := by
  obtain ⟨found, -, same⟩ := Option.map_eq_some_iff.mp revokes
  cases same
  rfl

theorem opens_congr {server server' : Server} (same : server'.challenges = server.challenges)
    {id : String} {kid : Kid} : Opens server' id kid ↔ Opens server id kid := by
  unfold Opens Server.challenge
  rw [same]

theorem take_opens {server : Server} {assigned : Assigned} {submission : Submission}
    {id : String} {kid : Kid} (opens : Opens (server.take assigned submission) id kid) :
    Opens server id kid := by
  cases submission with
  | commit body => exact opens
  | rotate body =>
    unfold Server.take at opens
    cases rotates : server.rotateSlot body with
    | none => simpa [rotates] using opens
    | some pair =>
      simp only [rotates, Option.map_some, Option.getD_some] at opens
      exact (opens_congr (rotateSlot_challenges rotates)).mp opens
  | revoke body =>
    unfold Server.take at opens
    cases revokes : server.revokeSlot body with
    | none => simpa [revokes] using opens
    | some pair =>
      simp only [revokes, Option.map_some, Option.getD_some] at opens
      exact (opens_congr (revokeSlot_challenges revokes)).mp opens
  | recover body =>
    unfold Server.take at opens
    cases found : server.challenge body.challengeId with
    | none => simpa [found] using opens
    | some challenge =>
      by_cases issued : challenge.state = .issued
      · simp only [found, if_pos issued] at opens
        exact recover_opens opens
      · simp only [found, if_neg issued] at opens
        exact opens

/-! ## What one call makes of the world -/

/-- The call takes a record out of the store. -/
def Removes (w : World) (c : Circumstances) (kid : Kid) (call : Call) : Prop :=
  call = .retireKid kid ∧ c.fault = none ∧ w.store.active ≠ some kid

/-- What a call did to the server and to the submissions under way. -/
structure Effect (w w' : World) (call : Call) : Prop where
  active : ∀ kid ∈ activeKids w'.server,
    kid ∈ activeKids w.server ∨ CallCarries w.server kid call
  opens : ∀ id kid, Opens w'.server id kid → Opens w.server id kid ∨ Proposes kid call
  undecided : ∀ submission ∈ w'.undecided, submission ∈ w.undecided ∨
    ∀ kid, Submits w.server kid submission → CallCarries w.server kid call
  saved : ∀ pending, w'.store.pendingRecovery = some pending →
    w.store.pendingRecovery = some pending ∨ Answers pending.answer call

theorem Effect.same {w w' : World} (call : Call) (server : w'.server = w.server)
    (undecided : w'.undecided = w.undecided)
    (saved : w'.store.pendingRecovery = w.store.pendingRecovery) : Effect w w' call where
  active kid active := .inl (by rwa [server] at active)
  opens id kid opens := .inl (by rwa [server] at opens)
  undecided submission member := .inl (by rwa [undecided] at member)
  saved pending same := .inl (by rwa [saved] at same)

theorem Effect.submit {α : Type} {w : World} {c : Circumstances} {call : Call}
    {submission : Submission} {taken : Option (α × Server)}
    (active : ∀ a server, taken = some (a, server) → ∀ kid ∈ activeKids server,
      kid ∈ activeKids w.server ∨ CallCarries w.server kid call)
    (opens : ∀ a server, taken = some (a, server) → server.challenges = w.server.challenges)
    (carries : ∀ kid, Submits w.server kid submission → CallCarries w.server kid call) :
    Effect w (w.submit c submission taken).2 call := by
  unfold World.submit
  split
  · exact ⟨active _ _ rfl, fun id kid open' => .inl ((opens_congr (opens _ _ rfl)).mp open'),
      fun _ member => .inl member, fun _ same => .inl same⟩
  · exact Effect.same call rfl rfl rfl
  · exact Effect.same call rfl rfl rfl
  · refine ⟨fun _ => .inl, fun _ _ => .inl, fun other member => ?_, fun _ => .inl⟩
    rcases List.mem_cons.mp member with rfl | old
    · exact .inr carries
    · exact .inl old

theorem submitAnswer_effect (w : World) (c : Circumstances) (body : RecoveryAnswerBody) :
    Effect w (w.submitAnswer c body).2 (.submitRecoveryAnswer body) := by
  have carries (kid : Kid) (opens : Opens w.server body.challengeId kid) :
      CallCarries w.server kid (.submitRecoveryAnswer body) := .inr ⟨body, rfl, opens⟩
  unfold World.submitAnswer
  split
  · refine ⟨fun _ => .inl, fun _ _ => .inl, fun other member => ?_, fun _ => .inl⟩
    rcases List.mem_cons.mp member with rfl | old
    · exact .inr carries
    · exact .inl old
  · refine ⟨fun _ => .inl, fun id kid opens => .inl ?_, fun _ => .inl, fun _ => .inl⟩
    exact decideChallenge_opens (by simp) opens
  · rename_i issued proposal _ found
    refine ⟨fun kid active => .inr ?_, fun id kid opens => .inl (recover_opens opens),
      fun _ => .inl, fun _ => .inl⟩
    exact carries kid ⟨_, found, rfl, recover_active active⟩
  · exact Effect.same _ rfl rfl rfl
  · exact Effect.same _ rfl rfl rfl

theorem issueChallenge_opens {server : Server} {issued : IssuedRecoveryChallenge}
    {body : RecoveryChallengeBody} {id : String} {kid : Kid}
    (opens : Opens (server.issueChallenge issued body) id kid) :
    if issued.challengeId = id then body.kid = kid else Opens server id kid := by
  obtain ⟨challenge, found, state, same⟩ := opens
  unfold Server.challenge Server.issueChallenge at found
  by_cases hit : issued.challengeId = id
  · rw [if_pos hit]
    simp only [List.find?_cons, hit, decide_true, Option.some.injEq] at found
    rw [← found] at same
    exact same
  · rw [if_neg hit]
    simp only [List.find?_cons, hit, decide_false] at found
    exact ⟨challenge, found, state, same⟩

theorem answer_effect (c : Circumstances) (call : Call) (w : World) :
    Effect w (w.answer c call).2 call := by
  rcases World.answer_cases c call w with ⟨e, failed⟩ | performed
  · rw [failed]
    exact Effect.same call rfl rfl rfl
  rw [performed]
  cases call with
  | acquire lock =>
    simp only [World.perform]
    split
    · exact Effect.same _ rfl rfl rfl
    · exact Effect.same _ rfl rfl rfl
  | generateCandidate =>
    show Effect w (w.onStore (w.store.generateCandidate c.minted)).2 _
    unfold Store.generateCandidate
    split
    · exact Effect.same _ rfl rfl rfl
    · exact Effect.same _ rfl rfl rfl
  | setActiveKid kid =>
    show Effect w (w.onStore (w.store.setActiveKid kid)).2 _
    unfold Store.setActiveKid
    split
    · exact Effect.same _ rfl rfl rfl
    · exact Effect.same _ rfl rfl rfl
  | retireKid kid =>
    show Effect w (w.onStore (w.store.retireKid kid)).2 _
    unfold Store.retireKid
    split
    · exact Effect.same _ rfl rfl rfl
    · split
      · exact Effect.same _ rfl rfl rfl
      · exact Effect.same _ rfl rfl rfl
  | writePendingRecovery pending =>
    refine ⟨fun _ => .inl, fun _ _ => .inl, fun _ => .inl, fun other same => .inr ?_⟩
    exact congrArg PendingRecovery.answer (Option.some.inj same)
  | removePendingRecovery =>
    refine ⟨fun _ => .inl, fun _ _ => .inl, fun _ => .inl, fun other same => ?_⟩
    cases same
  | approval presentation =>
    show Effect w (w.ask c c.token w).2 _
    unfold World.ask
    split
    · exact Effect.same _ rfl rfl rfl
    · exact Effect.same _ rfl rfl rfl
    · exact Effect.same _ rfl rfl rfl
  | commitSlot body =>
    refine Effect.submit (fun a server taken kid active => ?_) (fun a server taken => ?_)
      fun kid carries => .inl carries
    · cases taken
      rcases commitSlot_active active with old | new
      · exact .inl old
      · exact .inr (.inl new)
    · cases taken
      rfl
  | rotateSlot body =>
    refine Effect.submit (fun a server taken kid active => ?_) (fun a server taken => ?_)
      fun kid carries => .inl carries
    · rcases rotated_active taken active with new | ⟨slot, member, status, same, -⟩
      · exact .inr (.inl new)
      · exact .inl (mem_activeKids.mpr ⟨slot, member, status, same⟩)
    · exact rotateSlot_challenges taken
  | revokeSlot body =>
    refine Effect.submit (fun a server taken kid active => ?_) (fun a server taken => ?_)
      fun kid carries => absurd carries id
    · obtain ⟨slot, member, status, same, -⟩ := revoked_active taken active
      exact .inl (mem_activeKids.mpr ⟨slot, member, status, same⟩)
    · exact revokeSlot_challenges taken
  | issueRecoveryChallenge body =>
    show Effect w (w.ask c c.issued _).2 _
    unfold World.ask
    split
    · refine ⟨fun _ => .inl, fun id kid opens => ?_, fun _ => .inl, fun _ => .inl⟩
      have opens := issueChallenge_opens opens
      split at opens
      · exact .inr opens
      · exact .inl opens
    · exact Effect.same _ rfl rfl rfl
    · exact Effect.same _ rfl rfl rfl
  | submitRecoveryAnswer body => exact submitAnswer_effect w c body
  | _ => exact Effect.same _ rfl rfl rfl

theorem stored_discard {store : Store} {kid other : Kid} (stored : store.Stored kid)
    (kept : kid ≠ other) : (store.discard other).Stored kid := by
  obtain ⟨record, member, same⟩ := stored
  exact ⟨record, List.mem_filter.mpr ⟨member, by simpa [same] using kept⟩, same⟩

/-- Only a retirement takes a record away. -/
theorem answer_stored {c : Circumstances} {call : Call} {w : World} {kid : Kid}
    (stored : w.store.Stored kid) (kept : ¬ Removes w c kid call) :
    (w.answer c call).2.store.Stored kid := by
  unfold World.answer
  cases faulty : c.fault with
  | some fault => exact stored
  | none =>
    cases call with
    | acquire lock =>
      simp only [World.perform]
      split
      · exact stored
      · exact stored
    | generateCandidate =>
      show (w.store.generateCandidate c.minted).2.Stored kid
      unfold Store.generateCandidate
      split
      · exact stored
      · obtain ⟨record, member, same⟩ := stored
        exact ⟨record, List.mem_append_left _ member, same⟩
    | setActiveKid other =>
      show (w.store.setActiveKid other).2.Stored kid
      unfold Store.setActiveKid
      split
      · exact stored
      · exact stored
    | retireKid other =>
      show (w.store.retireKid other).2.Stored kid
      unfold Store.retireKid
      split
      · exact stored
      · rename_i inactive
        split
        · refine stored_discard stored ?_
          rintro rfl
          exact kept ⟨rfl, faulty, inactive⟩
        · exact stored
    | approval presentation =>
      show (w.ask c c.token w).2.store.Stored kid
      unfold World.ask
      split
      · exact stored
      · exact stored
      · exact stored
    | commitSlot body =>
      show (w.submit c _ _).2.store.Stored kid
      unfold World.submit
      split <;> exact stored
    | rotateSlot body =>
      show (w.submit c _ _).2.store.Stored kid
      unfold World.submit
      split <;> exact stored
    | revokeSlot body =>
      show (w.submit c _ _).2.store.Stored kid
      unfold World.submit
      split <;> exact stored
    | issueRecoveryChallenge body =>
      show (w.ask c c.issued _).2.store.Stored kid
      unfold World.ask
      split <;> exact stored
    | submitRecoveryAnswer body =>
      show (w.submitAnswer c body).2.store.Stored kid
      unfold World.submitAnswer
      split <;> exact stored
    | _ => exact stored

end NazoAuthCtl.ControllerEffects
