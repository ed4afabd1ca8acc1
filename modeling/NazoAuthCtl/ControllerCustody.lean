import Mathlib.Logic.Function.Basic
import NazoAuthCtl.ControllerBinding
import NazoAuthCtl.ControllerConduct
import NazoAuthCtl.ControllerEffects

/-!
# Custody of enrolled keys

The flows of one instance taken in turn, one call at a time, with processes that are lost,
submissions that the server decides after the client gave up, and changes that other parties
make at the server. A key that the server lists in an active slot, or may still come to list,
must stay in the store.
-/

set_option autoImplicit false
set_option linter.all false

namespace NazoAuthCtl.ControllerCustody
open ControllerStore ControllerWorld ControllerFlows ControllerConduct ControllerEffects
open ControllerBinding (exampleProtocol exampleCircumstances exampleWorld)

/-! ## Flows taken in turn -/

inductive FlowKind where
  | bind (label : String)
  | rotate (label : Option String)
  | add (label : String)
  | revoke (controllerId : ControllerId)
  | slots
  | recover (oldSecretText label : String)

section runs

variable (protocol : RecoveryProtocol)

def FlowKind.flow (record : InstanceRecord) : FlowKind → Flow Unit
  | .bind label => do let _ ← bindFlow protocol record label
  | .rotate label => do let _ ← rotateFlow record label
  | .add label => do let _ ← addFlow record label
  | .revoke controllerId => do let _ ← revokeFlow record controllerId
  | .slots => do let _ ← slotsFlow record
  | .recover oldSecretText label => do
    let _ ← recoverControllerIdentity protocol record.deploymentId oldSecretText label

/-- A flow under way with the locks that it holds, the keys that have been enrolled since the
reply of the server that it goes by, and the key that its rotation has replaced. -/
structure Task where
  flow : Flow Unit
  locks : List LockFile
  since : List Kid
  replaced : Option Kid

/-- `minted` are the keys that this store has generated, `history` all keys that were ever in
an active slot. -/
structure Config where
  world : World
  tasks : ℕ → Option Task
  minted : List Kid
  history : List Kid

def Task.saw (new : List Kid) (task : Task) : Task := { task with since := new ++ task.since }

/-- The replies of the server that a flow goes by when it retires a key. -/
def Task.heard (task : Task) (server : Server) (history : List Kid) :
    (call : Call) → Except Failure (Reply call) → Task
  | .acquire lock, .ok _ => { task with locks := lock :: task.locks }
  | .listSlots, .ok _ => { task with since := [], replaced := none }
  | .revokeSlot _, .ok _ => { task with since := [], replaced := none }
  | .rotateSlot body, .ok _ =>
    { task with
      since := [body.kid]
      replaced := (server.slots.find? (·.controllerId = body.controllerId)).map (·.kid) }
  | .submitRecoveryAnswer _, .error _ => { task with since := history, replaced := none }
  | _, _ => task

def gained (before after : Server) : List Kid :=
  (activeKids after).filter (· ∉ activeKids before)

def Config.moved (config : Config) (w : World) : Config :=
  let new := gained config.world.server w.server
  { config with
    world := w
    tasks := fun i => (config.tasks i).map (·.saw new)
    history := new ++ config.history }

def generated : (call : Call) → Except Failure (Reply call) → List Kid
  | .generateCandidate, .ok summary => [summary.kid]
  | _, _ => []

/-- What comes of a submission whose client was told that its outcome is unknown. -/
inductive Late where
  | lost
  | refused
  | taken (assigned : Assigned)

def Late.settle (server : Server) (submission : Submission) : Late → Server
  | .lost => server
  | .refused =>
    match submission with
    | .recover body =>
      match server.challenge body.challengeId with
      | some ⟨_, _, .issued⟩ => server.decideChallenge body.challengeId .rejected
      | _ => server
    | _ => server
  | .taken assigned => server.take assigned submission

inductive Action where
  | start (i : ℕ) (kind : FlowKind)
  | act (i : ℕ) (c : Circumstances)
  | stop (i : ℕ)
  | decide (n : ℕ) (late : Late)
  | outside (server : Server)

/-- A task that has made one call. -/
def Config.called (config : Config) (i : ℕ) (c : Circumstances) (task : Task) (call : Call)
    (next : Except Failure (Reply call) → Flow Unit) : Config :=
  let answer := config.world.answer c call
  let moved := config.moved answer.2
  let seen := task.saw (gained config.world.server answer.2.server)
  { moved with
    tasks := Function.update moved.tasks i (some
      { seen.heard config.world.server moved.history call answer.1 with flow := next answer.1 })
    minted := generated call answer.1 ++ config.minted }

/-- A flow starts with the record as it stands. A process that stops, done or lost, gives its
locks back. -/
def Config.apply (config : Config) : Action → Config
  | .start i kind =>
    if (config.tasks i).isNone then
      { config with
        tasks := Function.update config.tasks i
          (some ⟨kind.flow protocol config.world.record, [], [], none⟩) }
    else config
  | .act i c =>
    match config.tasks i with
    | some ⟨.call call next, locks, since, replaced⟩ =>
      config.called i c ⟨.call call next, locks, since, replaced⟩ call next
    | _ => config
  | .stop i =>
    match config.tasks i with
    | some task =>
      { config with
        world := { config.world with held := config.world.held.filter (· ∉ task.locks) }
        tasks := Function.update config.tasks i none }
    | none => config
  | .decide n late =>
    match config.world.undecided[n]? with
    | some submission => config.moved { config.world with
        server := late.settle config.world.server submission
        undecided := config.world.undecided.eraseIdx n }
    | none => config
  | .outside server => config.moved { config.world with server }

/-- Other parties neither enroll nor propose a key that this store has generated. -/
def Foreign (config : Config) (server : Server) : Prop :=
  ∀ kid ∈ config.minted,
    (kid ∈ activeKids server → kid ∈ activeKids config.world.server) ∧
    ∀ id, Opens server id kid → Opens config.world.server id kid

def Possible (config : Config) : Action → Prop
  | .outside server => Foreign config server
  | _ => True

/-- Nothing has been generated yet. The server has what others enrolled. -/
structure Initial (config : Config) : Prop where
  keys : config.world.store = ⟨[], none, none, none, none⟩
  undecided : config.world.undecided = []
  tasks : ∀ i, config.tasks i = none
  minted : config.minted = []
  history : config.history = activeKids config.world.server

inductive Reached : Config → Prop where
  | start {config : Config} (initial : Initial config) : Reached config
  | step {config : Config} {action : Action} (before : Reached config)
      (possible : Possible config action) : Reached (config.apply protocol action)

/-- Every key that this store generated and the server lists in an active slot is stored. -/
def Kept (config : Config) : Prop :=
  ∀ kid ∈ config.minted, kid ∈ activeKids config.world.server → config.world.store.Stored kid

/-! ## When a retirement is safe -/

/-- Something under way besides the flow `i` may still put the key before the server. -/
inductive Claimed (config : Config) (i : ℕ) (kid : Kid) : Prop where
  | undecided {submission : Submission} (member : submission ∈ config.world.undecided)
      (submits : Submits config.world.server kid submission)
  | saved {pending : PendingRecovery} (stored : config.world.store.pendingRecovery = some pending)
      (opens : Opens config.world.server pending.answer.challengeId kid)
  | task {j : ℕ} {task : Task} (other : j ≠ i) (runs : config.tasks j = some task)
      (carries : Carries config.world.server kid task.flow)

/-- No key of an active slot stands in the slot of another controller. -/
def Distinct (server : Server) : Prop :=
  ∀ a ∈ server.slots, ∀ b ∈ server.slots, b.status = .active → a.kid = b.kid →
    a.controllerId = b.controllerId

/-- The key that a flow takes out of the store is claimed by nothing else, was not enrolled
since the reply that the flow goes by, and is the one that its rotation has replaced. -/
def Safe (config : Config) : Action → Prop
  | .act i c => Distinct config.world.server ∧
    ∀ task kid next, config.tasks i = some task → task.flow = .call (.retireKid kid) next →
      Removes config.world c kid (.retireKid kid) →
      ¬ Claimed config i kid ∧ kid ∉ task.since ∧ ∀ old ∈ task.replaced, kid = old
  | _ => True

inductive SafeRun : Config → Prop where
  | start {config : Config} (initial : Initial config) : SafeRun config
  | step {config : Config} {action : Action} (before : SafeRun config)
      (possible : Possible config action) (safe : Safe config action) :
      SafeRun (config.apply protocol action)

end runs

/-! ## What a running flow has been told -/

theorem flow_careful (protocol : RecoveryProtocol) (kind : FlowKind) (record : InstanceRecord) :
    Careful (kind.flow protocol record) := by
  intro known
  cases kind with
  | bind label =>
    exact CallFlow.Flow.obeys_andThen (bindFlow_obeys protocol record label known)
      fun _ _ => trivial
  | rotate label =>
    exact CallFlow.Flow.obeys_andThen (rotateFlow_obeys record label known) fun _ _ => trivial
  | add label =>
    exact CallFlow.Flow.obeys_andThen (addFlow_obeys record label known) fun _ _ => trivial
  | revoke controllerId =>
    exact CallFlow.Flow.obeys_andThen (revokeFlow_obeys record controllerId known)
      fun _ _ => trivial
  | slots => exact CallFlow.Flow.obeys_andThen (slotsFlow_obeys record known) fun _ _ => trivial
  | recover oldSecretText label =>
    exact CallFlow.Flow.obeys_andThen
      (recoverControllerIdentity_obeys protocol record.deploymentId oldSecretText label known)
      fun _ _ => trivial

/-- Only a reply that rereads the store adds keys. -/
theorem told_keys_kept {call : Call} {r : Except Failure (Reply call)} {known : Known}
    (quiet : ¬ Rereads call) : (told call r known).keys = known.keys := by
  cases call with
  | listKeys => exact absurd trivial quiet
  | publicKey kid => exact absurd trivial quiet
  | generateCandidate => exact absurd trivial quiet
  | retireKid kid => exact absurd trivial quiet
  | _ => rfl

theorem told_answers_kept {call : Call} {r : Except Failure (Reply call)} {known : Known}
    (quiet : ¬ Renews call) : (told call r known).answers = known.answers := by
  cases call with
  | issueRecoveryChallenge body => exact absurd trivial quiet
  | readPendingRecovery => exact absurd trivial quiet
  | retireKid kid => exact absurd trivial quiet
  | _ => rfl

theorem proposes_known {f : Flow Unit} {Q : Unit → Known → Prop} {known : Known} {kid : Kid}
    (obeys : f.Obeys rules Q known) (proposes : f.Reaches (Proposes kid) Rereads) :
    known.keys kid := by
  refine @CallFlow.Flow.Obeys.reaches _ _ _ _ _ rules _ _ _ _ _ (fun known => known.keys kid)
    obeys ?_ ?_ proposes
  · intro call known proposed allowed
    cases call with
    | commitSlot body => exact (show body.kid = kid from proposed) ▸ allowed
    | rotateSlot body => exact (show body.kid = kid from proposed) ▸ allowed
    | issueRecoveryChallenge body => exact (show body.kid = kid from proposed) ▸ allowed
    | _ => exact absurd proposed id
  · intro call r known quiet keys
    rwa [show (rules.told call r known).keys = known.keys from told_keys_kept quiet] at keys

theorem answers_known {f : Flow Unit} {Q : Unit → Known → Prop} {known : Known}
    {body : RecoveryAnswerBody} (obeys : f.Obeys rules Q known)
    (answers : f.Reaches (Answers body) Renews) : known.answers body := by
  refine @CallFlow.Flow.Obeys.reaches _ _ _ _ _ rules _ _ _ _ _ (fun known => known.answers body)
    obeys ?_ ?_ answers
  · intro call known answered allowed
    cases call with
    | submitRecoveryAnswer other => exact (show other = body from answered) ▸ allowed
    | writePendingRecovery pending => exact (show pending.answer = body from answered) ▸ allowed
    | _ => exact absurd answered id
  · intro call r known quiet held
    rwa [show (rules.told call r known).answers = known.answers from told_answers_kept quiet]
      at held

/-- The keys that a reply shows are stored. -/
theorem told_keys_stored {c : Circumstances} {call : Call} {w : World} {known : Known} {kid : Kid}
    (rereads : Rereads call) (shown : (told call (w.answer c call).1 known).keys kid) :
    (w.answer c call).2.store.Stored kid := by
  unfold World.answer at shown ⊢
  cases faulty : c.fault with
  | some fault =>
    rw [faulty] at shown
    cases call with
    | listKeys =>
      obtain ⟨_, same, -⟩ := shown
      cases same
    | publicKey other =>
      obtain ⟨_, same, -⟩ := shown
      cases same
    | generateCandidate =>
      obtain ⟨_, same, -⟩ := shown
      cases same
    | retireKid other => exact absurd shown id
    | _ => exact absurd rereads id
  | none =>
    rw [faulty] at shown
    cases call with
    | listKeys =>
      obtain ⟨summaries, listed, member⟩ := shown
      rw [Store.listKeys_ok listed] at member
      obtain ⟨record, member, same⟩ := List.mem_map.mp member
      exact ⟨record, member, same⟩
    | publicKey other =>
      obtain ⟨publicKey, read, rfl⟩ := shown
      show w.store.Stored kid
      by_contra missing
      obtain ⟨e, failed⟩ := Store.readKeyRecord_missing missing
      rw [show (w.perform c (.publicKey kid)).1 = w.store.publicKey kid from rfl,
        Store.publicKey, failed] at read
      cases read
    | generateCandidate =>
      obtain ⟨summary, generated, rfl⟩ := shown
      show (w.store.generateCandidate c.minted).2.Stored summary.kid
      have generated : (w.store.generateCandidate c.minted).1 = .ok summary := generated
      unfold Store.generateCandidate at generated ⊢
      split
      · rename_i present
        rw [if_pos present] at generated
        cases generated
      · rename_i fresh
        rw [if_neg fresh] at generated
        cases generated
        exact ⟨c.minted, List.mem_append_right _ (List.mem_singleton.mpr rfl), rfl⟩
    | retireKid other => exact absurd shown id
    | _ => exact absurd rereads id

/-- An answer that a reply hands out is to the challenge just issued or to the saved one. -/
theorem told_answers_open {c : Circumstances} {call : Call} {w : World} {known : Known}
    {body : RecoveryAnswerBody} {kid : Kid} (renews : Renews call)
    (held : (told call (w.answer c call).1 known).answers body)
    (opens : Opens (w.answer c call).2.server body.challengeId kid) :
    Proposes kid call ∨ ∃ pending, w.store.pendingRecovery = some pending ∧
      Opens w.server pending.answer.challengeId kid := by
  unfold World.answer at held opens
  cases faulty : c.fault with
  | some fault =>
    rw [faulty] at held
    cases call with
    | issueRecoveryChallenge proposal =>
      obtain ⟨_, same, -⟩ := held
      cases same
    | readPendingRecovery =>
      obtain ⟨_, same, -⟩ := held
      cases same
    | retireKid other => exact absurd held id
    | _ => exact absurd renews id
  | none =>
    rw [faulty] at held opens
    cases call with
    | issueRecoveryChallenge proposal =>
      obtain ⟨issued, replied, same⟩ := held
      have replied : (w.ask c c.issued { w with
        server := w.server.issueChallenge c.issued proposal }).1 = .ok issued := replied
      have opens : Opens (w.ask c c.issued { w with
        server := w.server.issueChallenge c.issued proposal }).2.server body.challengeId kid :=
        opens
      unfold World.ask at replied opens
      cases verdict : c.verdict with
      | taken =>
        rw [verdict] at replied opens
        cases replied
        have new := issueChallenge_opens opens
        rw [if_pos same.symm] at new
        exact .inl new
      | refused e =>
        rw [verdict] at replied
        cases replied
      | undecided e =>
        rw [verdict] at replied
        cases replied
    | readPendingRecovery =>
      obtain ⟨pending, replied, rfl⟩ := held
      exact .inr ⟨pending, Except.ok.inj replied, opens⟩
    | retireKid other => exact absurd held id
    | _ => exact absurd renews id

/-- What the flow takes for idle has no active slot, if it has not been enrolled since and is
not merely what the pointer named during a rotation. -/
def Informed (server : Server) (task : Task) (known : Known) : Prop :=
  ∀ kid, known.idle kid → kid ∉ task.since → (∀ old ∈ task.replaced, kid = old) →
    kid ∉ activeKids server

theorem not_gained {before after : Server} {kid : Kid} (inactive : kid ∉ activeKids before)
    (quiet : kid ∉ gained before after) : kid ∉ activeKids after := by
  intro active
  exact quiet (List.mem_filter.mpr ⟨active, by simpa using inactive⟩)

theorem informed_saw {before after : Server} {task : Task} {known : Known}
    (informed : Informed before task known) :
    Informed after (task.saw (gained before after)) known := by
  intro kid idle quiet replaced
  have quiet : kid ∉ gained before after ++ task.since := quiet
  rw [List.mem_append, not_or] at quiet
  exact not_gained (informed kid idle quiet.2 replaced) quiet.1

theorem revokeSlot_idle {server server' : Server} {body : RevokeCommitBody}
    {slot : ControllerSlotView} (distinct : Distinct server)
    (revokes : server.revokeSlot body = some (slot, server')) :
    slot.kid ∉ activeKids server' := by
  intro active
  obtain ⟨other, member, status, same, elsewhere⟩ := revoked_active revokes active
  obtain ⟨found, first, pair⟩ := Option.map_eq_some_iff.mp revokes
  have target : found.controllerId = body.controllerId := by
    simpa using List.find?_some first
  have kid : slot.kid = found.kid := by
    cases pair
    simp [Server.revoked, target]
  rw [kid] at same
  exact elsewhere ((distinct found (List.mem_of_find?_eq_some first) other member status
    same.symm).symm.trans target)

theorem rotateSlot_idle {server server' : Server} {body : RotateCommitBody}
    {slot : ControllerSlotView} {old : Kid} (distinct : Distinct server)
    (rotates : server.rotateSlot body = some (slot, server'))
    (replaced : (server.slots.find? (·.controllerId = body.controllerId)).map (·.kid) = some old)
    (changed : old ≠ body.kid) : old ∉ activeKids server' := by
  intro active
  obtain ⟨found, first, kid⟩ := Option.map_eq_some_iff.mp replaced
  have target : found.controllerId = body.controllerId := by
    simpa using List.find?_some first
  rcases rotated_active rotates active with new | ⟨other, member, status, same, elsewhere⟩
  · exact changed new.symm
  · rw [← kid] at same
    exact elsewhere ((distinct found (List.mem_of_find?_eq_some first) other member status
      same.symm).symm.trans target)

theorem submit_ok {α : Type} {w : World} {c : Circumstances} {submission : Submission}
    {taken : Option (α × Server)} {a : α} (ok : (w.submit c submission taken).1 = .ok a) :
    ∃ server, taken = some (a, server) ∧ (w.submit c submission taken).2.server = server := by
  unfold World.submit at ok ⊢
  split at ok
  · cases ok
    exact ⟨_, rfl, rfl⟩
  · cases ok
  · cases ok
  · cases ok

theorem answer_ok {c : Circumstances} {call : Call} {w : World} {a : Reply call}
    (ok : (w.answer c call).1 = .ok a) :
    (w.perform c call).1 = .ok a ∧ (w.answer c call).2 = (w.perform c call).2 := by
  rcases World.answer_cases c call w with ⟨e, failed⟩ | performed
  · rw [failed] at ok
    cases ok
  · rw [performed] at ok ⊢
    exact ⟨ok, rfl⟩

theorem heard_informed {c : Circumstances} {call : Call} {w : World} {task : Task} {known : Known}
    {history : List Kid} (distinct : Distinct w.server)
    (informed : Informed w.server task known)
    (recorded : ∀ kid ∈ activeKids w.server, kid ∈ history) :
    Informed (w.answer c call).2.server
      ((task.saw (gained w.server (w.answer c call).2.server)).heard w.server
        (gained w.server (w.answer c call).2.server ++ history) call (w.answer c call).1)
      (told call (w.answer c call).1 known) := by
  have saw := @informed_saw _ (w.answer c call).2.server _ _ informed
  cases call with
  | listSlots =>
    intro kid idle quiet replaced
    obtain ⟨snapshot, replied, unlisted⟩ := idle
    obtain ⟨performed, same⟩ := answer_ok replied
    rw [same]
    exact unlisted_inactive ((Except.ok.inj performed) ▸ unlisted)
  | revokeSlot body =>
    intro kid idle quiet replaced
    obtain ⟨slot, replied, -, rfl⟩ := idle
    obtain ⟨performed, same⟩ := answer_ok replied
    obtain ⟨server, revokes, after⟩ := submit_ok performed
    rw [same, show (w.perform c (.revokeSlot body)).2.server = server from after]
    exact revokeSlot_idle distinct revokes
  | rotateSlot body =>
    intro kid idle quiet replaced
    obtain ⟨slot, replied⟩ := idle
    rw [replied] at quiet replaced
    obtain ⟨performed, same⟩ := answer_ok replied
    obtain ⟨server, rotates, after⟩ := submit_ok performed
    rw [same, show (w.perform c (.rotateSlot body)).2.server = server from after]
    obtain ⟨found, first, -⟩ := Option.map_eq_some_iff.mp rotates
    have old : (w.server.slots.find? (·.controllerId = body.controllerId)).map (·.kid) =
        some found.kid := by
      rw [first]
      rfl
    have isOld : kid = found.kid := replaced found.kid old
    have isNew : kid ≠ body.kid := fun new => quiet (List.mem_singleton.mpr new)
    rw [isOld] at isNew ⊢
    exact rotateSlot_idle distinct rotates old isNew
  | submitRecoveryAnswer body =>
    intro kid idle quiet replaced
    obtain ⟨e, refused, -⟩ := idle
    rw [refused] at quiet
    have quiet : kid ∉ gained w.server (w.answer c (.submitRecoveryAnswer body)).2.server ++
      history := quiet
    rw [List.mem_append, not_or] at quiet
    exact not_gained (fun active => quiet.2 (recorded kid active)) quiet.1
  | acquire lock =>
    cases (w.answer c (.acquire lock)).1 with
    | ok a => exact saw
    | error e => exact saw
  | _ => exact saw

/-! ## Custody -/

/-- The key is in an active slot or may still come to be. -/
inductive Bound (config : Config) (kid : Kid) : Prop where
  | enrolled (active : kid ∈ activeKids config.world.server)
  | undecided {submission : Submission} (member : submission ∈ config.world.undecided)
      (submits : Submits config.world.server kid submission)
  | saved {pending : PendingRecovery} (stored : config.world.store.pendingRecovery = some pending)
      (opens : Opens config.world.server pending.answer.challengeId kid)
  | task {i : ℕ} {task : Task} (runs : config.tasks i = some task)
      (carries : Carries config.world.server kid task.flow)

structure Custody (config : Config) : Prop where
  keys : ∀ kid ∈ config.minted, Bound config kid → config.world.store.Stored kid
  history : ∀ kid ∈ activeKids config.world.server, kid ∈ config.history
  tasks : ∀ i task, config.tasks i = some task →
    ∃ known, task.flow.Obeys rules (fun _ _ => True) known ∧
      Informed config.world.server task known

theorem carries_known {f : Flow Unit} {known : Known} {server : Server} {kid : Kid}
    (obeys : f.Obeys rules (fun _ _ => True) known) (carries : Carries server kid f) :
    known.keys kid ∨ ∃ body, known.answers body ∧ Opens server body.challengeId kid := by
  rcases carries with proposes | ⟨body, answers, opens⟩
  · exact .inl (proposes_known obeys proposes)
  · exact .inr ⟨body, answers_known obeys answers, opens⟩

theorem moved_history {config : Config} {w : World}
    (recorded : ∀ kid ∈ activeKids config.world.server, kid ∈ config.history) :
    ∀ kid ∈ activeKids w.server, kid ∈ (config.moved w).history := by
  intro kid active
  show kid ∈ gained config.world.server w.server ++ config.history
  by_cases before : kid ∈ activeKids config.world.server
  · exact List.mem_append_right _ (recorded kid before)
  · exact List.mem_append_left _ (List.mem_filter.mpr ⟨active, by simpa using before⟩)

theorem moved_tasks {config : Config} {w : World} {i : ℕ} {task : Task}
    (runs : (config.moved w).tasks i = some task) :
    ∃ before, config.tasks i = some before ∧
      task = before.saw (gained config.world.server w.server) := by
  obtain ⟨before, runs, same⟩ := Option.map_eq_some_iff.mp runs
  exact ⟨before, runs, same.symm⟩

/-- A change of the server that brings no key of this store forward. -/
theorem Custody.moved {config : Config} (custody : Custody config) {w : World}
    (store : w.store = config.world.store)
    (undecided : ∀ submission ∈ w.undecided, submission ∈ config.world.undecided)
    (active : ∀ kid ∈ config.minted, kid ∈ activeKids w.server → Bound config kid)
    (opens : ∀ kid ∈ config.minted, ∀ id, Opens w.server id kid →
      Opens config.world.server id kid) : Custody (config.moved w) where
  keys kid minted bound := by
    show w.store.Stored kid
    rw [store]
    apply custody.keys kid minted
    cases bound with
    | enrolled now => exact active kid minted now
    | undecided member submits =>
      rename_i submission
      refine .undecided (undecided submission member) ?_
      cases submission with
      | recover body => exact opens kid minted _ submits
      | _ => exact submits
    | saved stored opened =>
      have stored : w.store.pendingRecovery = _ := stored
      rw [store] at stored
      exact .saved stored (opens kid minted _ opened)
    | task runs carries =>
      obtain ⟨before, ran, rfl⟩ := moved_tasks runs
      refine .task ran ?_
      rcases carries with proposes | ⟨body, answers, opened⟩
      · exact .inl proposes
      · exact .inr ⟨body, answers, opens kid minted _ opened⟩
  history := moved_history custody.history
  tasks i task runs := by
    obtain ⟨before, ran, rfl⟩ := moved_tasks runs
    obtain ⟨known, obeys, informed⟩ := custody.tasks i before ran
    exact ⟨known, obeys, informed_saw informed⟩

theorem settle_active {server : Server} {submission : Submission} {late : Late} {kid : Kid}
    (active : kid ∈ activeKids (late.settle server submission)) :
    kid ∈ activeKids server ∨ Submits server kid submission := by
  cases late with
  | lost => exact .inl active
  | refused =>
    left
    simp only [Late.settle] at active
    split at active
    · split at active
      · exact active
      · exact active
    · exact active
  | taken assigned => exact take_active active

theorem settle_opens {server : Server} {submission : Submission} {late : Late} {id : String}
    {kid : Kid} (opens : Opens (late.settle server submission) id kid) : Opens server id kid := by
  cases late with
  | lost => exact opens
  | refused =>
    simp only [Late.settle] at opens
    split at opens
    · split at opens
      · exact decideChallenge_opens (by simp) opens
      · exact opens
    · exact opens
  | taken assigned => exact take_opens opens

section steps

variable {protocol : RecoveryProtocol} {config : Config}

theorem custody_start (custody : Custody config) (i : ℕ) (kind : FlowKind) :
    Custody (config.apply protocol (.start i kind)) := by
  unfold Config.apply
  dsimp only
  by_cases idle : (config.tasks i).isNone
  · rw [if_pos idle]
    have obeys := flow_careful protocol kind config.world.record Known.nothing
    refine ⟨fun kid minted bound => ?_, custody.history, fun j task runs => ?_⟩
    · apply custody.keys kid minted
      cases bound with
      | enrolled active => exact .enrolled active
      | undecided member submits => exact .undecided member submits
      | saved stored opens => exact .saved stored opens
      | @task j task runs carries =>
        by_cases own : j = i
        · subst own
          simp only [Function.update_self, Option.some.injEq] at runs
          subst runs
          rcases carries_known obeys carries with none | ⟨_, none, -⟩
          · exact absurd none id
          · exact absurd none id
        · simp only [Function.update_of_ne own] at runs
          exact .task runs carries
    · by_cases own : j = i
      · subst own
        simp only [Function.update_self, Option.some.injEq] at runs
        subst runs
        exact ⟨Known.nothing, obeys, fun kid none => absurd none id⟩
      · simp only [Function.update_of_ne own] at runs
        exact custody.tasks j task runs
  · rw [if_neg idle]
    exact custody

theorem custody_stop (custody : Custody config) (i : ℕ) :
    Custody (config.apply protocol (.stop i)) := by
  unfold Config.apply
  dsimp only
  cases running : config.tasks i with
  | none => exact custody
  | some stopped =>
    have kept {j : ℕ} {task : Task} (runs : Function.update config.tasks i none j = some task) :
        config.tasks j = some task := by
      by_cases own : j = i
      · subst own
        rw [Function.update_self] at runs
        cases runs
      · rwa [Function.update_of_ne own] at runs
    refine ⟨fun kid minted bound => custody.keys kid minted ?_, custody.history,
      fun j task runs => custody.tasks j task (kept runs)⟩
    cases bound with
    | enrolled active => exact .enrolled active
    | undecided member submits => exact .undecided member submits
    | saved stored opens => exact .saved stored opens
    | task runs carries => exact .task (kept runs) carries

theorem custody_decide (custody : Custody config) (n : ℕ) (late : Late) :
    Custody (config.apply protocol (.decide n late)) := by
  unfold Config.apply
  dsimp only
  cases found : config.world.undecided[n]? with
  | none => exact custody
  | some submission =>
    have member := List.mem_of_getElem? found
    refine custody.moved rfl (fun _ => List.mem_of_mem_eraseIdx) ?_ ?_
    · intro kid _ active
      rcases settle_active active with before | submits
      · exact .enrolled before
      · exact .undecided member submits
    · intro kid _ id opens
      exact settle_opens opens

theorem custody_outside (custody : Custody config) {server : Server}
    (foreign : Foreign config server) : Custody (config.apply protocol (.outside server)) := by
  refine custody.moved rfl (fun _ => id) ?_ ?_
  · intro kid minted active
    exact .enrolled ((foreign kid minted).1 active)
  · intro kid minted id opens
    exact (foreign kid minted).2 id opens

end steps

section call

variable {config : Config} {i : ℕ} {c : Circumstances} {task : Task} {call : Call}
  {next : Except Failure (Reply call) → Flow Unit}

/-- A call that brings a key forward makes its flow carry it. -/
theorem bound_call (runs : config.tasks i = some task) (flow : task.flow = .call call next)
    {kid : Kid} (carries : CallCarries config.world.server kid call) : Bound config kid := by
  refine .task runs ?_
  rw [flow]
  rcases carries with proposes | ⟨body, answers, opens⟩
  · exact .inl (.inl proposes)
  · exact .inr ⟨body, .inl answers, opens⟩

/-- What the rest of the flow carries, it carried before or has just read. -/
theorem carries_next {known : Known} (runs : config.tasks i = some task)
    (flow : task.flow = .call call next) (obeys : task.flow.Obeys rules (fun _ _ => True) known)
    {kid : Kid} (carries : Carries (config.world.answer c call).2.server kid
      (next (config.world.answer c call).1)) :
    Bound config kid ∨ (config.world.answer c call).2.store.Stored kid := by
  rw [flow] at obeys
  have after := obeys.2 (config.world.answer c call).1
  rcases carries with proposes | ⟨body, answers, opens⟩
  · by_cases rereads : Rereads call
    · exact .inr (told_keys_stored rereads (proposes_known after proposes))
    · left
      refine .task runs (.inl ?_)
      rw [flow]
      exact .inr ⟨rereads, _, proposes⟩
  · left
    by_cases renews : Renews call
    · rcases told_answers_open renews (answers_known after answers) opens with
        proposes | ⟨pending, stored, opened⟩
      · exact bound_call runs flow (.inl proposes)
      · exact .saved stored opened
    · rcases (answer_effect c call config.world).opens _ _ opens with opened | proposes
      · refine .task runs (.inr ⟨body, ?_, opened⟩)
        rw [flow]
        exact .inr ⟨renews, _, answers⟩
      · exact bound_call runs flow (.inl proposes)

theorem called_tasks {j : ℕ} {other : Task} (away : j ≠ i)
    (runs : (config.called i c task call next).tasks j = some other) :
    ∃ before, config.tasks j = some before ∧
      other = before.saw (gained config.world.server (config.world.answer c call).2.server) := by
  simp only [Config.called, Function.update_of_ne away] at runs
  exact moved_tasks runs

theorem called_own {other : Task}
    (runs : (config.called i c task call next).tasks i = some other) :
    other = { (task.saw (gained config.world.server
        (config.world.answer c call).2.server)).heard config.world.server
      (config.moved (config.world.answer c call).2).history call (config.world.answer c call).1
      with flow := next (config.world.answer c call).1 } := by
  simp only [Config.called, Function.update_self, Option.some.injEq] at runs
  exact runs.symm

/-- Before the call the key was bound already, or the call has just shown it. -/
theorem bound_called {known : Known} (runs : config.tasks i = some task)
    (flow : task.flow = .call call next) (obeys : task.flow.Obeys rules (fun _ _ => True) known)
    {kid : Kid} (bound : Bound (config.called i c task call next) kid) :
    Bound config kid ∨ (config.world.answer c call).2.store.Stored kid := by
  have effect := answer_effect c call config.world
  have brings (carries : CallCarries config.world.server kid call) : Bound config kid :=
    bound_call runs flow carries
  cases bound with
  | enrolled active =>
    rcases effect.active kid active with before | carries
    · exact .inl (.enrolled before)
    · exact .inl (brings carries)
  | @undecided submission member submits =>
    left
    have before (now : Submits (config.world.answer c call).2.server kid submission) :
        Submits config.world.server kid submission ∨ Proposes kid call := by
      cases submission with
      | recover body => exact effect.opens _ _ now
      | commit body => exact .inl now
      | rotate body => exact .inl now
      | revoke body => exact absurd now id
    rcases before submits with submits | proposes
    · rcases effect.undecided submission member with old | carries
      · exact .undecided old submits
      · exact brings (carries kid submits)
    · exact brings (.inl proposes)
  | @saved pending stored opens =>
    left
    rcases effect.opens _ _ opens with opens | proposes
    · rcases effect.saved pending stored with old | answers
      · exact .saved old opens
      · exact brings (.inr ⟨_, answers, opens⟩)
    · exact brings (.inl proposes)
  | @task j other ran carries =>
    by_cases own : j = i
    · subst own
      rw [called_own ran] at carries
      exact carries_next runs flow obeys carries
    · left
      obtain ⟨before, waiting, rfl⟩ := called_tasks own ran
      rcases carries with proposes | ⟨body, answers, opens⟩
      · exact .task waiting (.inl proposes)
      · rcases effect.opens _ _ opens with opens | proposes
        · exact .task waiting (.inr ⟨body, answers, opens⟩)
        · exact brings (.inl proposes)

theorem retired_world {kid : Kid} (removes : Removes config.world c kid call) :
    (config.world.answer c call).2.server = config.world.server ∧
      (config.world.answer c call).2.undecided = config.world.undecided ∧
      (config.world.answer c call).2.store.pendingRecovery =
        config.world.store.pendingRecovery := by
  obtain ⟨rfl, working, inactive⟩ := removes
  unfold World.answer
  rw [working]
  show (config.world.onStore (config.world.store.retireKid kid)).2.server = _ ∧
    (config.world.onStore (config.world.store.retireKid kid)).2.undecided = _ ∧
    (config.world.onStore (config.world.store.retireKid kid)).2.store.pendingRecovery = _
  unfold Store.retireKid
  rw [if_neg inactive]
  split
  · exact ⟨rfl, rfl, rfl⟩
  · exact ⟨rfl, rfl, rfl⟩

/-- A key that is taken out safely is bound by nothing afterwards. -/
theorem unbound_retired {known : Known} (runs : config.tasks i = some task)
    (flow : task.flow = .call call next) (obeys : task.flow.Obeys rules (fun _ _ => True) known)
    (informed : Informed config.world.server task known) {kid : Kid}
    (removes : Removes config.world c kid call) (unclaimed : ¬ Claimed config i kid)
    (quiet : kid ∉ task.since) (replaced : ∀ old ∈ task.replaced, kid = old) :
    ¬ Bound (config.called i c task call next) kid := by
  obtain ⟨server, undecided, saved⟩ := retired_world removes
  rw [flow] at obeys
  intro bound
  cases bound with
  | enrolled active =>
    have still : kid ∈ activeKids (config.world.answer c call).2.server := active
    rw [server] at still
    obtain ⟨rfl, -, -⟩ := removes
    exact informed kid obeys.1 quiet replaced still
  | @undecided submission member submits =>
    have member : submission ∈ (config.world.answer c call).2.undecided := member
    have submits : Submits (config.world.answer c call).2.server kid submission := submits
    rw [undecided] at member
    rw [server] at submits
    exact unclaimed (.undecided member submits)
  | @saved pending stored opens =>
    have stored : (config.world.answer c call).2.store.pendingRecovery = some pending := stored
    have opens : Opens (config.world.answer c call).2.server pending.answer.challengeId kid :=
      opens
    rw [saved] at stored
    rw [server] at opens
    exact unclaimed (.saved stored opens)
  | @task j other ran carries =>
    have carries : Carries (config.world.answer c call).2.server kid other.flow := carries
    rw [server] at carries
    by_cases own : j = i
    · subst own
      rw [called_own ran] at carries
      obtain ⟨rfl, -, -⟩ := removes
      rcases carries_known (obeys.2 _) carries with none | ⟨_, none, -⟩
      · exact absurd none id
      · exact absurd none id
    · obtain ⟨before, waiting, rfl⟩ := called_tasks own ran
      exact unclaimed (.task own waiting carries)

theorem generated_stored {kid : Kid}
    (new : kid ∈ generated call (config.world.answer c call).1) :
    (config.world.answer c call).2.store.Stored kid := by
  cases call with
  | generateCandidate =>
    refine @told_keys_stored c .generateCandidate config.world Known.nothing kid trivial ?_
    cases replied : (config.world.answer c .generateCandidate).1 with
    | ok summary =>
      rw [replied] at new
      exact ⟨summary, rfl, List.mem_singleton.mp new⟩
    | error e =>
      rw [replied] at new
      cases new
  | _ => cases new

theorem custody_called (custody : Custody config) (runs : config.tasks i = some task)
    (flow : task.flow = .call call next) (distinct : Distinct config.world.server)
    (safe : ∀ kid, Removes config.world c kid call →
      ¬ Claimed config i kid ∧ kid ∉ task.since ∧ ∀ old ∈ task.replaced, kid = old) :
    Custody (config.called i c task call next) := by
  obtain ⟨known, obeys, informed⟩ := custody.tasks i task runs
  refine ⟨fun kid minted bound => ?_, moved_history custody.history, fun j other ran => ?_⟩
  · show (config.world.answer c call).2.store.Stored kid
    rcases List.mem_append.mp minted with new | minted
    · exact generated_stored new
    · by_cases removes : Removes config.world c kid call
      · obtain ⟨unclaimed, quiet, replaced⟩ := safe kid removes
        exact absurd bound
          (unbound_retired runs flow obeys informed removes unclaimed quiet replaced)
      · rcases bound_called runs flow obeys bound with before | shown
        · exact answer_stored (custody.keys kid minted before) removes
        · exact shown
  · by_cases own : j = i
    · subst own
      rw [called_own ran]
      rw [flow] at obeys
      exact ⟨_, obeys.2 _, heard_informed distinct informed custody.history⟩
    · obtain ⟨before, waiting, rfl⟩ := called_tasks own ran
      obtain ⟨known, obeys, informed⟩ := custody.tasks j before waiting
      exact ⟨known, obeys, informed_saw informed⟩

end call

theorem custody_step {protocol : RecoveryProtocol} {config : Config} {action : Action}
    (custody : Custody config) (possible : Possible config action) (safe : Safe config action) :
    Custody (config.apply protocol action) := by
  cases action with
  | start i kind => exact custody_start custody i kind
  | stop i => exact custody_stop custody i
  | decide n late => exact custody_decide custody n late
  | outside server => exact custody_outside custody possible
  | act i c =>
    unfold Config.apply
    dsimp only
    split
    · rename_i call next locks since replaced running
      refine custody_called custody running rfl safe.1 fun kid removes => ?_
      obtain ⟨rfl, working, inactive⟩ := removes
      exact safe.2 _ kid next running rfl ⟨rfl, working, inactive⟩
    · exact custody

theorem custody_initial {config : Config} (initial : Initial config) : Custody config where
  keys kid minted _ := by
    rw [initial.minted] at minted
    cases minted
  history kid active := by
    rwa [initial.history]
  tasks i task runs := by
    rw [initial.tasks i] at runs
    cases runs

theorem custody_run {protocol : RecoveryProtocol} {config : Config}
    (run : SafeRun protocol config) : Custody config := by
  induction run with
  | start initial => exact custody_initial initial
  | step before possible safe ih => exact custody_step ih possible safe

/-! ## One flow at a time -/

section solo

variable (protocol : RecoveryProtocol)

def Config.run (config : Config) : List Action → Config
  | [] => config
  | action :: actions => (config.apply protocol action).run actions

def Task.retiring (task : Task) : Option Kid :=
  match task.flow with
  | .call (.retireKid kid) _ => some kid
  | _ => none

/-- Only the process `0` runs, and nothing is left undecided when it retires a key that was not
enrolled since. -/
def Solo (config : Config) : Action → Prop
  | .start i _ => i = 0
  | .act i _ => i = 0 ∧ Distinct config.world.server ∧
    ∀ task ∈ config.tasks 0, ∀ kid ∈ task.retiring,
      config.world.undecided = [] ∧ config.world.store.pendingRecovery = none ∧
        kid ∉ task.since ∧ ∀ old ∈ task.replaced, kid = old
  | .stop i => i = 0
  | _ => False

instance (server : Server) : Decidable (Distinct server) :=
  inferInstanceAs (Decidable (∀ a ∈ server.slots, ∀ b ∈ server.slots, b.status = .active →
    a.kid = b.kid → a.controllerId = b.controllerId))

instance soloDecidable (config : Config) : (action : Action) → Decidable (Solo config action)
  | .start i _ => inferInstanceAs (Decidable (i = 0))
  | .act _ _ => inferInstanceAs (Decidable (_ ∧ _ ∧ _))
  | .stop i => inferInstanceAs (Decidable (i = 0))
  | .decide _ _ => inferInstanceAs (Decidable False)
  | .outside _ => inferInstanceAs (Decidable False)

def SoloRun (config : Config) : List Action → Prop
  | [] => True
  | action :: actions => Solo config action ∧ SoloRun (config.apply protocol action) actions

instance soloRunDecidable : (config : Config) → (actions : List Action) →
    Decidable (SoloRun protocol config actions)
  | _, [] => inferInstanceAs (Decidable True)
  | config, action :: actions =>
    @instDecidableAnd _ _ _ (soloRunDecidable (config.apply protocol action) actions)

variable {protocol} {config : Config}

theorem solo_tasks {action : Action} (solo : Solo config action)
    (alone : ∀ j, j ≠ 0 → config.tasks j = none) :
    ∀ j, j ≠ 0 → (config.apply protocol action).tasks j = none := by
  intro j other
  cases action with
  | start i kind =>
    cases (show i = 0 from solo)
    unfold Config.apply
    dsimp only
    split
    · exact (Function.update_of_ne other _ _).trans (alone j other)
    · exact alone j other
  | act i c =>
    cases (show i = 0 from solo.1)
    unfold Config.apply
    dsimp only
    split
    · simp [Config.called, Config.moved, Function.update_of_ne other, alone j other]
    · exact alone j other
  | stop i =>
    cases (show i = 0 from solo)
    unfold Config.apply
    dsimp only
    split
    · exact (Function.update_of_ne other _ _).trans (alone j other)
    · exact alone j other
  | decide n late => exact absurd solo id
  | outside server => exact absurd solo id

theorem solo_safe {action : Action} (solo : Solo config action)
    (alone : ∀ j, j ≠ 0 → config.tasks j = none) :
    Possible config action ∧ Safe config action := by
  cases action with
  | start i kind => exact ⟨trivial, trivial⟩
  | stop i => exact ⟨trivial, trivial⟩
  | decide n late => exact absurd solo id
  | outside server => exact absurd solo id
  | act i c =>
    obtain ⟨rfl, distinct, quiet⟩ := solo
    refine ⟨trivial, distinct, fun task kid next runs flow _ => ?_⟩
    have retiring : kid ∈ task.retiring := by
      simp [Task.retiring, flow]
    obtain ⟨undecided, saved, since, replaced⟩ := quiet task runs kid retiring
    refine ⟨fun claimed => ?_, since, replaced⟩
    cases claimed with
    | undecided member submits =>
      rw [undecided] at member
      cases member
    | saved stored opens =>
      rw [saved] at stored
      cases stored
    | task other runs carries =>
      rw [alone _ other] at runs
      cases runs

theorem solo_run {actions : List Action} (solo : SoloRun protocol config actions)
    (alone : ∀ j, j ≠ 0 → config.tasks j = none) (run : SafeRun protocol config) :
    SafeRun protocol (config.run protocol actions) := by
  induction actions generalizing config with
  | nil => exact run
  | cons action actions ih =>
    obtain ⟨possible, safe⟩ := solo_safe solo.1 alone
    exact ih solo.2 (solo_tasks solo.1 alone) (.step run possible safe)

theorem reached_run {actions : List Action} (own : ∀ action ∈ actions, ∀ server,
    action ≠ .outside server) (reached : Reached protocol config) :
    Reached protocol (config.run protocol actions) := by
  induction actions generalizing config with
  | nil => exact reached
  | cons action actions ih =>
    refine ih (fun other member => own other (List.mem_cons_of_mem _ member)) (.step reached ?_)
    cases action with
    | outside server => exact absurd rfl (own _ (by simp) server)
    | _ => trivial

end solo

def exampleConfig : Config := ⟨exampleWorld, fun _ => none, [], []⟩

theorem exampleConfig_initial : Initial exampleConfig :=
  ⟨rfl, rfl, fun _ => rfl, rfl, rfl⟩

def exampleBind : List Action :=
  .start 0 (.bind "ops") :: List.replicate 15 (.act 0 (exampleCircumstances "first" "A")) ++
    [.stop 0]

def exampleRotate : List Action :=
  .start 0 (.rotate none) :: List.replicate 11 (.act 0 (exampleCircumstances "second" "A")) ++
    [.stop 0]

/-- The answer to the rotation is lost, a look at the slots tidies up, and then the server
applies the rotation. -/
def exampleLate : List Action :=
  .start 0 (.rotate none) :: List.replicate 6 (.act 0 (exampleCircumstances "second" "A")) ++
    [.act 0 { exampleCircumstances "second" "A" with
        verdict := .undecided ⟨.transport "timeout", rfl⟩ },
      .stop 0, .start 0 .slots] ++
    List.replicate 4 (.act 0 (exampleCircumstances "" "")) ++
    [.stop 0, .decide 0 (.taken ⟨"", 0, 0⟩)]

/-- Where every retirement is safe, the key of every slot that the server lists or may still
come to list is in the store. -/
theorem enrolled_keys_kept {protocol : RecoveryProtocol} {config : Config}
    (run : SafeRun protocol config) :
    Kept config ∧ ∀ kid ∈ config.minted, ∀ submission ∈ config.world.undecided,
      Submits config.world.server kid submission → config.world.store.Stored kid := by
  have custody := custody_run run
  constructor
  · intro kid minted active
    exact custody.keys kid minted (.enrolled active)
  · intro kid minted submission member submits
    exact custody.keys kid minted (.undecided member submits)

/-- A bind and a rotation that retires the first key. -/
theorem rotated_keys_kept :
    Kept (exampleConfig.run exampleProtocol (exampleBind ++ exampleRotate)) :=
  (enrolled_keys_kept (solo_run (by decide) (fun _ _ => rfl)
    (.start exampleConfig_initial))).1

/-- The late rotation leaves the controller with a key that no longer exists. -/
theorem late_rotation_loses_key :
    ¬ ∀ config, Reached exampleProtocol config → Kept config := by
  intro kept
  have reached : Reached exampleProtocol (exampleConfig.run exampleProtocol
      (exampleBind ++ exampleLate)) := by
    refine reached_run ?_ (.start exampleConfig_initial)
    simp [exampleBind, exampleLate]
  have minted : "second" ∈ (exampleConfig.run exampleProtocol (exampleBind ++ exampleLate)).minted
      := by decide
  have lost : ¬ (exampleConfig.run exampleProtocol
      (exampleBind ++ exampleLate)).world.store.Stored "second" := by decide
  have active : "second" ∈ activeKids (exampleConfig.run exampleProtocol
      (exampleBind ++ exampleLate)).world.server := by decide
  exact lost (kept _ reached "second" minted active)

end NazoAuthCtl.ControllerCustody
