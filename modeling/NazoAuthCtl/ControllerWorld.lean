import NazoAuthCtl.ControllerStore

/-!
# The calls of the identity flows

Every read or write of the store, the registry record, a pending file or the server is one
call. A call of a flow can fail without having done anything; a submission can also be left
undecided, with the client told that its outcome is unknown.
-/

set_option autoImplicit false
set_option linter.all false

namespace NazoAuthCtl.ControllerWorld
open ControllerStore

inductive LockFile where
  | bind
  | add
  | recovery
  deriving DecidableEq, Repr

inductive Call where
  | acquire (lock : LockFile)
  | listSlots
  | listKeys
  | loadActive
  | publicKey (kid : Kid)
  | generateCandidate
  | setActiveKid (kid : Kid)
  | clearActive
  | retireKid (kid : Kid)
  | updateControllerBinding (controllerId : Option ControllerId) (keyRef : Option String)
  | readPendingAdd
  | writePendingAdd (pending : PendingAdd)
  | removePendingAdd
  | readPendingBind
  | writePendingBind (pending : PendingBindRecovery)
  | removePendingBind
  | readPendingRecovery
  | writePendingRecovery (pending : PendingRecovery)
  | removePendingRecovery
  | randomSecret
  | randomNonce
  | approval (presentation : ProposalPresentation)
  | deliver (display : String)
  | commitSlot (body : SlotCommitBody)
  | rotateSlot (body : RotateCommitBody)
  | revokeSlot (body : RevokeCommitBody)
  | issueRecoveryChallenge (body : RecoveryChallengeBody)
  | submitRecoveryAnswer (body : RecoveryAnswerBody)
  deriving DecidableEq, Repr

abbrev Reply : Call → Type
  | .listSlots => SlotsSnapshot
  | .listKeys => List ControllerKeySummary
  | .loadActive => Option Kid
  | .publicKey _ => String
  | .generateCandidate => ControllerKeySummary
  | .readPendingAdd => Option PendingAdd
  | .readPendingBind => Option PendingBindRecovery
  | .readPendingRecovery => Option PendingRecovery
  | .randomSecret => String
  | .randomNonce => String
  | .approval _ => String
  | .commitSlot _ => ControllerSlotView
  | .rotateSlot _ => ControllerSlotView
  | .revokeSlot _ => ControllerSlotView
  | .issueRecoveryChallenge _ => IssuedRecoveryChallenge
  | .submitRecoveryAnswer _ => RecoveryCommitView
  | _ => Unit

abbrev Flow (α : Type) : Type := CallFlow.Flow Call Reply Failure α

def perform (c : Call) : Flow (Reply c) := CallFlow.Flow.perform c

def attempt (c : Call) : Flow (Except Failure (Reply c)) := CallFlow.Flow.attempt c

theorem perform_call (c : Call) : perform c = .call c .done := rfl

theorem attempt_call (c : Call) : attempt c = .call c fun r => .done (.ok r) := rfl

structure World where
  store : Store
  record : InstanceRecord
  server : Server
  undecided : List Submission
  held : List LockFile
  deriving DecidableEq

/-- A failure of the network tells nothing about a submission. -/
structure Unanswered where
  error : AdminApiError
  unanswered : error.unanswered
  deriving DecidableEq

/-- What becomes of a submission. -/
inductive Verdict where
  | taken
  | refused (error : AdminApiError)
  | undecided (error : Unanswered)
  deriving DecidableEq

/-- A call that ends before it has done anything. -/
inductive Fault where
  | machine (message : String)
  | network (error : Unanswered)
  deriving DecidableEq

def Fault.failure : Fault → Failure
  | machine message => .text message
  | network error => .api error.error

/-- What one call meets: a failure before anything is done, or the random values, the answers
of the administrator and the decision of the server. -/
structure Circumstances where
  fault : Option Fault
  minted : KeyRecord
  secret : String
  nonce : String
  token : String
  issued : IssuedRecoveryChallenge
  verdict : Verdict
  assigned : Assigned
  deriving DecidableEq

namespace World

def onStore (w : World) {α : Type} (x : Except Failure α × Store) : Except Failure α × World :=
  (x.1, { w with store := x.2 })

def bound (w : World) (controllerId : Option ControllerId) (keyRef : Option String) : World :=
  { w with record := { w.record with controllerId, controllerKeyRef := keyRef } }

/-- The answer to a request that changes nothing by being refused. -/
def ask {α : Type} (w : World) (c : Circumstances) (a : α) (w' : World) :
    Except Failure α × World :=
  match c.verdict with
  | .taken => (.ok a, w')
  | .refused e => (.error (.api e), w)
  | .undecided e => (.error (.api e.error), w)

/-- A submission that the server takes or refuses, or decides about later. -/
def submit {α : Type} (w : World) (c : Circumstances) (submission : Submission)
    (taken : Option (α × Server)) : Except Failure α × World :=
  match c.verdict, taken with
  | .taken, some (a, server) => (.ok a, { w with server })
  | .taken, none => (.error (.api (.rejected 404 "not_found" "")), w)
  | .refused e, _ => (.error (.api e), w)
  | .undecided e, _ => (.error (.api e.error), { w with undecided := submission :: w.undecided })

/-- An answer is decided once. Later copies of an accepted one get its receipt. -/
def submitAnswer (w : World) (c : Circumstances) (body : RecoveryAnswerBody) :
    Except Failure RecoveryCommitView × World :=
  match c.verdict, w.server.challenge body.challengeId with
  | .undecided e, _ =>
    (.error (.api e.error), { w with undecided := .recover body :: w.undecided })
  | .refused e, some ⟨_, _, .issued⟩ =>
    (.error (.api e), { w with server := w.server.decideChallenge body.challengeId .rejected })
  | .taken, some ⟨issued, proposal, .issued⟩ =>
    (.ok ⟨Server.recovered c.assigned proposal, c.assigned.recoveryGeneration⟩,
      { w with server := w.server.recover c.assigned ⟨issued, proposal, .issued⟩ })
  | _, some ⟨_, _, .accepted receipt⟩ => (.ok receipt, w)
  | _, _ => (.error (.api (.rejected 409 "challenge_closed" "")), w)

/-- A call that meets no failure. -/
def perform (c : Circumstances) : (call : Call) → World → Except Failure (Reply call) × World
  | .acquire lock, w =>
    if lock ∈ w.held then (.error (.text "another operation holds the lock"), w)
    else (.ok (), { w with held := lock :: w.held })
  | .listSlots, w => (.ok w.server.snapshot, w)
  | .listKeys, w => (w.store.listKeys, w)
  | .loadActive, w => (w.store.loadActive, w)
  | .publicKey kid, w => (w.store.publicKey kid, w)
  | .generateCandidate, w => w.onStore (w.store.generateCandidate c.minted)
  | .setActiveKid kid, w => w.onStore (w.store.setActiveKid kid)
  | .clearActive, w => (.ok (), { w with store := w.store.clearActive })
  | .retireKid kid, w => w.onStore (w.store.retireKid kid)
  | .updateControllerBinding controllerId keyRef, w => (.ok (), w.bound controllerId keyRef)
  | .readPendingAdd, w => (.ok w.store.pendingAdd, w)
  | .writePendingAdd pending, w =>
    (.ok (), { w with store := { w.store with pendingAdd := some pending } })
  | .removePendingAdd, w => (.ok (), { w with store := { w.store with pendingAdd := none } })
  | .readPendingBind, w => (.ok w.store.pendingBind, w)
  | .writePendingBind pending, w =>
    (.ok (), { w with store := { w.store with pendingBind := some pending } })
  | .removePendingBind, w => (.ok (), { w with store := { w.store with pendingBind := none } })
  | .readPendingRecovery, w => (.ok w.store.pendingRecovery, w)
  | .writePendingRecovery pending, w =>
    (.ok (), { w with store := { w.store with pendingRecovery := some pending } })
  | .removePendingRecovery, w =>
    (.ok (), { w with store := { w.store with pendingRecovery := none } })
  | .randomSecret, w => (.ok c.secret, w)
  | .randomNonce, w => (.ok c.nonce, w)
  | .approval _, w => w.ask c c.token w
  | .deliver _, w => (.ok (), w)
  | .commitSlot body, w =>
    w.submit c (.commit body)
      (some (Server.committed c.assigned body, w.server.commitSlot c.assigned body))
  | .rotateSlot body, w => w.submit c (.rotate body) (w.server.rotateSlot body)
  | .revokeSlot body, w => w.submit c (.revoke body) (w.server.revokeSlot body)
  | .issueRecoveryChallenge body, w =>
    w.ask c c.issued { w with server := w.server.issueChallenge c.issued body }
  | .submitRecoveryAnswer body, w => w.submitAnswer c body

def answer (c : Circumstances) (call : Call) (w : World) : Except Failure (Reply call) × World :=
  match c.fault with
  | some fault => (.error fault.failure, w)
  | none => w.perform c call

/-- Every call works, and the same circumstances hold for all of them. -/
def calm (c : Circumstances) : CallFlow.Flow.Handler Call Reply Failure World :=
  fun call w => w.perform c call

/-- The circumstances of each call of a run. A process that is lost is one whose calls all
fail from then on, as far as the world is concerned. -/
abbrev Script : Type := ℕ → Circumstances

def scripted : CallFlow.Flow.Handler Call Reply Failure (World × Script) :=
  fun call s => ((s.1.answer (s.2 0) call).1, (s.1.answer (s.2 0) call).2, fun n => s.2 (n + 1))

/-- A call that fails by a fault leaves the world as it is. -/
theorem answer_cases (c : Circumstances) (call : Call) (w : World) :
    (∃ e, w.answer c call = (.error e, w)) ∨ w.answer c call = w.perform c call := by
  unfold answer
  cases c.fault with
  | some fault => exact .inl ⟨_, rfl⟩
  | none => exact .inr rfl

/-- The world when a process has ended and its locks are gone. -/
def after {α : Type} (w : World) (f : Flow α) (script : Script) : World :=
  { (f.exec scripted (w, script)).2.1 with held := [] }

end World

end NazoAuthCtl.ControllerWorld
