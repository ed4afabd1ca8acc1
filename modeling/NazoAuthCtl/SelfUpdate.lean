import NazoAuthCtl.FaultProgram

/-!
# Replacing the controller itself

An update and a rollback write a journal first, then copy files and record what is trusted, and
a recovery reads the journal and three digests to go on from wherever the last process was lost.
A file is its SHA-256 digest here, the only thing the code compares, and a JSON document is the
record it was written from. Which release is offered, what a candidate says of the existing
state and which effects take place belong to the circumstances of one run.
-/

set_option autoImplicit false
set_option linter.all false

namespace NazoAuthCtl.SelfUpdate
open FaultProgram
open FaultProgram.Program hiding pure bind

abbrev Digest := BitVec 256
abbrev Uuid := BitVec 128

/-- A path: below the private state directory or anywhere else. -/
inductive Place where
  | outside (path : String)
  | rollback (digest : Digest)
  | candidate (digest : Digest)
  deriving DecidableEq, Repr

inductive SelfUpdateOperation where
  | update
  | rollback
  deriving DecidableEq, Repr

inductive SelfUpdatePhase where
  | intent
  | rollbackPrepared
  | candidatePrepared
  | candidateVerified
  | installed
  | rollbackStateCommitted
  | trustCommitted
  deriving DecidableEq, Repr

structure ControllerTrustState where
  version : String
  sha256 : Digest
  deriving DecidableEq, Repr

structure ControllerRollbackState where
  version : String
  sha256 : Digest
  artifact : Place
  deriving DecidableEq, Repr

/-- The text of the transaction id is that of a UUID, so it is never blank. -/
structure SelfUpdateJournal where
  transactionId : Uuid
  operation : SelfUpdateOperation
  phase : SelfUpdatePhase
  installPath : Place
  fromVersion : String
  fromSha256 : Digest
  toVersion : String
  toSha256 : Digest
  rollbackArtifact : Place
  rollbackSha256 : Digest
  stagedArtifact : Option Place
  deriving DecidableEq, Repr

structure Disk where
  files : Place → Option Digest
  journal : Option SelfUpdateJournal
  rollbackState : Option ControllerRollbackState
  trust : Option ControllerTrustState

/-- A release whose artifact has the digest. -/
structure VerifiedControllerRelease where
  version : String
  sha256 : Digest
  deriving DecidableEq, Repr

inductive Effect where
  | lock
  | evidence
  | journal (operation : SelfUpdateOperation) (phase : SelfUpdatePhase)
  | copyRollback
  | copyCandidate
  | install (operation : SelfUpdateOperation)
  | rollbackState
  | trust (operation : SelfUpdateOperation)
  | removeStaged
  | removeJournal
  deriving DecidableEq, Repr

inductive Failure where
  /-- The candidate did not confirm that it can read the existing state. -/
  | refused (detail : String)
  | other (text : String)
  deriving DecidableEq, Repr

/-- What one process meets. -/
structure Circumstances where
  currentExe : Place
  packageVersion : String
  transactionId : Uuid
  release : Except String (Option VerifiedControllerRelease)
  parseReleaseVersion : String → Except String Unit
  compareVersions : String → String → Except String Ordering
  verifyCandidateState : Place → Except String Unit
  faults : Effect → Fault String

abbrev Action (α : Type) : Type := Program Circumstances Disk Failure α

/-! ## Effects -/

def Disk.put (disk : Disk) (place : Place) (content : Digest) : Disk :=
  { disk with files := fun q => if q = place then some content else disk.files q }

def Disk.drop (disk : Disk) (place : Place) : Disk :=
  { disk with files := fun q => if q = place then none else disk.files q }

def Disk.record (disk : Disk) (journal : SelfUpdateJournal) : Disk :=
  { disk with journal := some journal }

def Disk.retire (disk : Disk) : Disk := { disk with journal := none }

def perform (e : Effect) (change : Disk → Disk) : Action Unit :=
  effect (·.faults e) Failure.other (modify change)

def present (label : String) : Option Digest → Except Failure Digest
  | some digest => .ok digest
  | none => .error (.other s!"failed to inspect {label}")

/-- A read that does not accept a missing file. -/
def secureDigest (place : Place) (label : String) : Action Digest := do
  let disk ← get
  ofExcept (present label (disk.files place))

def ensureDigest (place : Place) (expected : Digest) (label : String) : Action Unit := do
  let actual ← secureDigest place label
  require (actual = expected) (Failure.other s!"{label} digest differs from its trusted binding")

def copyAtomic (e : Effect) (content expected : Digest) (target : Place) : Action Unit := do
  require (content = expected)
    (Failure.other "atomic-copy content does not match the expected SHA-256 digest")
  perform e (·.put target content)

def persistSelfUpdateJournal (journal : SelfUpdateJournal) : Action Unit :=
  perform (.journal journal.operation journal.phase) (·.record journal)

/-- The journal of the next phase, once it is stored. -/
def advance (journal : SelfUpdateJournal) (phase : SelfUpdatePhase) :
    Action SelfUpdateJournal := do
  persistSelfUpdateJournal { journal with phase := phase }
  pure { journal with phase := phase }

/-- The next phase, where the journal is not past it. -/
def advanceIf (c : Prop) [Decidable c] (journal : SelfUpdateJournal) (phase : SelfUpdatePhase) :
    Action SelfUpdateJournal :=
  if c then advance journal phase else pure journal

def removeStaged (place : Place) : Action Unit := perform .removeStaged (·.drop place)

def removeJournal : Action Unit := perform .removeJournal Disk.retire

def writeControllerTrust (operation : SelfUpdateOperation) (version : String)
    (sha256 : Digest) : Action Unit :=
  perform (.trust operation) fun disk => { disk with trust := some ⟨version, sha256⟩ }

def commitControllerRollbackState (version : String) (sha256 : Digest) (artifact : Place) :
    Action Unit := do
  ensureDigest artifact sha256 "rollback artifact"
  perform .rollbackState fun disk =>
    { disk with rollbackState := some ⟨version, sha256, artifact⟩ }

/-! ## Retiring a journal -/

def isUnstarted (phase : SelfUpdatePhase) : Bool :=
  phase ∈ [.intent, .rollbackPrepared, .candidatePrepared, .candidateVerified]

def dropStagedAt (expected : Digest) : Option Place → Action Unit
  | none => pure ()
  | some staged => do
    let disk ← get
    onlyIf (disk.files staged ≠ none) do
      require (disk.files staged = some expected)
        (Failure.other "staged controller candidate changed before cleanup")
      removeStaged staged

/-- The staged candidate goes before the journal does. -/
def dropStaged (journal : SelfUpdateJournal) : Action Unit :=
  dropStagedAt journal.toSha256 journal.stagedArtifact

def finishSelfUpdateJournal (journal : SelfUpdateJournal) : Action Unit := do
  require (journal.phase = .trustCommitted) (Failure.other
    "controller self-update journal cannot be retired before the trust commit")
  dropStaged journal
  removeJournal

def discardUnstartedSelfUpdateJournal (journal : SelfUpdateJournal) : Action Unit := do
  require (isUnstarted journal.phase)
    (Failure.other "controller self-update journal is no longer unstarted")
  ensureDigest journal.installPath journal.fromSha256 "preserved controller"
  dropStaged journal
  removeJournal

/-! ## Recovery -/

def concludeRollback (journal : SelfUpdateJournal) : Action Unit := do
  writeControllerTrust .rollback journal.toVersion journal.toSha256
  let journal ← advanceIf (journal.phase = .installed) journal .trustCommitted
  finishSelfUpdateJournal journal

def reinstallRollback (journal : SelfUpdateJournal) : Action SelfUpdateJournal := do
  let artifact ← secureDigest journal.rollbackArtifact "controller rollback artifact"
  copyAtomic (.install .rollback) artifact journal.toSha256 journal.installPath
  advance journal .installed

def recoverRollbackJournal (journal : SelfUpdateJournal) : Action Unit := do
  let disk ← get
  require (disk.files journal.rollbackArtifact ≠ none)
    (Failure.other "controller rollback artifact is missing")
  require (disk.files journal.rollbackArtifact = some journal.rollbackSha256
      ∧ journal.rollbackSha256 = journal.toSha256)
    (Failure.other "controller rollback journal is not bound to its artifact digest")
  let current := disk.files journal.installPath
  if current ≠ some journal.toSha256 then do
    require (current = none ∨ current = some journal.fromSha256)
      (Failure.other "controller install digest is neither rollback source nor target")
    reinstallRollback journal >>= concludeRollback
  else if journal.phase = .intent then advance journal .installed >>= concludeRollback
  else concludeRollback journal

/-- The transaction back to the source, which takes the place of the update. -/
def reversed (journal : SelfUpdateJournal) : SelfUpdateJournal :=
  { journal with
      operation := .rollback
      phase := .intent
      fromVersion := journal.toVersion
      fromSha256 := journal.toSha256
      toVersion := journal.fromVersion
      toSha256 := journal.fromSha256
      stagedArtifact := none }

def dropRejectedAt (expected : Digest) : Option Place → Action Unit
  | none => pure ()
  | some staged => do
    let disk ← get
    onlyIf (disk.files staged ≠ none) do
      ensureDigest staged expected "rejected candidate"
      removeStaged staged

def dropRejected (journal : SelfUpdateJournal) : Action Unit :=
  dropRejectedAt journal.toSha256 journal.stagedArtifact

def restoreRejectedUpdate (journal : SelfUpdateJournal) : Action Unit := do
  ensureDigest journal.rollbackArtifact journal.fromSha256 "previous controller"
  dropRejected journal
  persistSelfUpdateJournal (reversed journal)
  recoverRollbackJournal (reversed journal)

/-- What follows the candidate's own verdict. -/
def judged (accepted : Action Unit) (rejected : String → Action Unit) :
    Except String Unit → Action Unit
  | .ok () => accepted
  | .error detail => rejected detail

def restored (detail : String) : Failure :=
  .refused s!"previous controller automatically restored: {detail}"

def concludeTrust (journal : SelfUpdateJournal) : Action Unit := do
  writeControllerTrust .update journal.toVersion journal.toSha256
  let journal ← advanceIf (journal.phase = .rollbackStateCommitted) journal .trustCommitted
  finishSelfUpdateJournal journal

def concludeRollbackState (journal : SelfUpdateJournal) : Action Unit := do
  commitControllerRollbackState journal.fromVersion journal.fromSha256 journal.rollbackArtifact
  let journal ← advanceIf (journal.phase = .installed) journal .rollbackStateCommitted
  concludeTrust journal

def concludeUpdate (journal : SelfUpdateJournal) : Action Unit := do
  let journal ← advanceIf (isUnstarted journal.phase) journal .installed
  concludeRollbackState journal

def settleInstalled (journal : SelfUpdateJournal) : Action Unit := do
  let e ← environment
  judged (concludeUpdate journal)
    (fun detail => do
      restoreRejectedUpdate journal
      throw (restored detail))
    (e.verifyCandidateState journal.installPath)

/-- A candidate is put into a place that may be empty. -/
def preservePrevious (journal : SelfUpdateJournal) : Action Unit := do
  let previous ← secureDigest journal.rollbackArtifact "previous controller"
  copyAtomic (.install .rollback) previous journal.fromSha256 journal.installPath

def installStaged (journal : SelfUpdateJournal) (staged : Place) : Action Unit := do
  let journal ← advance journal .candidateVerified
  let content ← secureDigest staged "staged controller candidate"
  copyAtomic (.install .update) content journal.toSha256 journal.installPath
  let journal ← advance journal .installed
  settleInstalled journal

def recoverStaged (journal : SelfUpdateJournal) (staged : Place) : Action Unit := do
  let e ← environment
  let disk ← get
  judged (installStaged journal staged)
    (fun detail => do
      onlyIf (disk.files journal.installPath = none) (preservePrevious journal)
      discardUnstartedSelfUpdateJournal journal
      throw (.refused detail))
    (e.verifyCandidateState staged)

def stagedDigest (disk : Disk) (journal : SelfUpdateJournal) : Option Digest :=
  journal.stagedArtifact.bind disk.files

/-- The download or the staging never completed. -/
def recoverUnstaged (journal : SelfUpdateJournal) (current : Option Digest) : Action Unit :=
  if current = some journal.fromSha256
      ∧ (journal.phase = .intent ∨ journal.phase = .rollbackPrepared) then
    discardUnstartedSelfUpdateJournal journal
  else throw (.other "controller self-update journal cannot recover its candidate")

def recoverUpdateJournal (journal : SelfUpdateJournal) : Action Unit := do
  let disk ← get
  let current := disk.files journal.installPath
  require ((disk.files journal.rollbackArtifact).all (· == journal.rollbackSha256))
    (Failure.other "controller rollback artifact digest differs from its journal binding")
  require ((stagedDigest disk journal).all (· == journal.toSha256))
    (Failure.other "staged controller candidate digest differs from its journal binding")
  if current = some journal.toSha256 then settleInstalled journal
  else do
    require (current = none ∨ current = some journal.fromSha256)
      (Failure.other "controller install digest is neither the journal source nor candidate")
    match journal.stagedArtifact with
    | some staged =>
      if disk.files staged = some journal.toSha256 then recoverStaged journal staged
      else recoverUnstaged journal current
    | none => recoverUnstaged journal current

def recoverBy (journal : SelfUpdateJournal) : SelfUpdateOperation → Action Unit
  | .update => recoverUpdateJournal journal
  | .rollback => recoverRollbackJournal journal

def recoverJournal (journal : SelfUpdateJournal) : Action Unit := do
  let e ← environment
  require (e.currentExe = journal.installPath) (Failure.other
    "controller self-update journal is bound to a different install path")
  recoverBy journal journal.operation

def recoverRecorded : Option SelfUpdateJournal → Action Unit
  | none => pure ()
  | some journal => recoverJournal journal

def recoverControllerSelfOperation : Action Unit := do
  let disk ← get
  recoverRecorded disk.journal

/-! ## Commands -/

def controllerTrustState : Action (Option ControllerTrustState) := do
  let e ← environment
  let disk ← get
  match disk.trust with
  | none => pure none
  | some state => do
    ofExcept ((e.parseReleaseVersion state.version).mapError Failure.other)
    pure (some state)

def antiDowngrade : Failure :=
  .other "controller anti-downgrade policy requires explicit self rollback"

/-- Without a trust record the running binary is the floor. -/
def enforceControllerTrust (version : String) (sha256 : Digest) :
    Action (Option ControllerTrustState) := do
  let e ← environment
  match ← controllerTrustState with
  | none => do
    let order ← ofExcept ((e.compareVersions version ("v" ++ e.packageVersion)).mapError
      Failure.other)
    require (order ≠ .lt) antiDowngrade
    onlyIf (order = .eq) do
      let current ← secureDigest e.currentExe "running controller"
      require (sha256 = current) (Failure.other
        "immutable controller Release changed for the running version")
    pure none
  | some state => do
    let order ← ofExcept ((e.compareVersions version state.version).mapError Failure.other)
    require (order ≠ .lt) antiDowngrade
    require (¬(order = .eq ∧ state.sha256 ≠ sha256)) (Failure.other
      "immutable controller Release changed for an already trusted version")
    pure (some state)

def fromVersion (e : Circumstances) (trust : Option ControllerTrustState) : String :=
  (trust.map (·.version)).getD ("v" ++ e.packageVersion)

def updateIntent (e : Circumstances) (trust : Option ControllerTrustState)
    (release : VerifiedControllerRelease) (current : Digest) : SelfUpdateJournal where
  transactionId := e.transactionId
  operation := .update
  phase := .intent
  installPath := e.currentExe
  fromVersion := fromVersion e trust
  fromSha256 := current
  toVersion := release.version
  toSha256 := release.sha256
  rollbackArtifact := .rollback current
  rollbackSha256 := current
  stagedArtifact := some (.candidate release.sha256)

def commitUpdate (journal : SelfUpdateJournal) : Action Unit := do
  commitControllerRollbackState journal.fromVersion journal.fromSha256 journal.rollbackArtifact
  let journal ← advance journal .rollbackStateCommitted
  writeControllerTrust .update journal.toVersion journal.toSha256
  let journal ← advance journal .trustCommitted
  finishSelfUpdateJournal journal

def installCandidate (journal : SelfUpdateJournal) : Action Unit := do
  let e ← environment
  let journal ← advance journal .candidateVerified
  let content ← secureDigest (.candidate journal.toSha256) "staged controller candidate"
  copyAtomic (.install .update) content journal.toSha256 journal.installPath
  let journal ← advance journal .installed
  judged (commitUpdate journal)
    (fun detail => do
      restoreRejectedUpdate journal
      throw (restored detail))
    (e.verifyCandidateState journal.installPath)

def updateFrom (trust : Option ControllerTrustState) (release : VerifiedControllerRelease) :
    Action Unit := do
  let e ← environment
  perform .evidence id
  let current ← secureDigest e.currentExe "running controller"
  let journal := updateIntent e trust release current
  persistSelfUpdateJournal journal
  copyAtomic .copyRollback current current (.rollback current)
  let journal ← advance journal .rollbackPrepared
  copyAtomic .copyCandidate release.sha256 release.sha256 (.candidate release.sha256)
  let journal ← advance journal .candidatePrepared
  judged (installCandidate journal)
    (fun detail => do
      discardUnstartedSelfUpdateJournal journal
      throw (.refused detail))
    (e.verifyCandidateState (.candidate release.sha256))

def controllerUpdate : Action Unit := do
  let e ← environment
  match ← ofExcept (e.release.mapError Failure.other) with
  | none => pure ()
  | some release => do
    let trust ← enforceControllerTrust release.version release.sha256
    updateFrom trust release

def rollbackIntent (e : Circumstances) (trust : Option ControllerTrustState)
    (state : ControllerRollbackState) (current : Digest) : SelfUpdateJournal where
  transactionId := e.transactionId
  operation := .rollback
  phase := .intent
  installPath := e.currentExe
  fromVersion := fromVersion e trust
  fromSha256 := current
  toVersion := state.version
  toSha256 := state.sha256
  rollbackArtifact := state.artifact
  rollbackSha256 := state.sha256
  stagedArtifact := none

def rollbackTo (state : ControllerRollbackState) : Action Unit := do
  let e ← environment
  ensureDigest state.artifact state.sha256 "controller rollback artifact"
  let current ← secureDigest e.currentExe "running controller"
  let trust ← controllerTrustState
  let journal := rollbackIntent e trust state current
  persistSelfUpdateJournal journal
  let content ← secureDigest state.artifact "controller rollback artifact"
  copyAtomic (.install .rollback) content state.sha256 journal.installPath
  let journal ← advance journal .installed
  writeControllerTrust .rollback state.version state.sha256
  let journal ← advance journal .trustCommitted
  finishSelfUpdateJournal journal

def controllerRollback : Action Unit := do
  let disk ← get
  match disk.rollbackState with
  | none => throw (.other "controller rollback state is unavailable")
  | some state => rollbackTo state

inductive Command where
  | check
  | update
  | rollback
  /-- Any other command, which repairs an interrupted replacement first. -/
  | repair
  deriving DecidableEq, Repr

def Command.body : Command → Action Unit
  | .check | .repair => pure ()
  | .update => controllerUpdate
  | .rollback => controllerRollback

/-- One process: the lock, the recovery, the command. The process may be lost in the recovery
or after it. -/
structure Process where
  command : Command
  recovery : Circumstances
  rest : Circumstances

def Process.recover (process : Process) (disk : Disk) : Outcome Failure Unit × Disk :=
  (perform .lock id >>= fun _ => recoverControllerSelfOperation) process.recovery disk

def Process.run (process : Process) (disk : Disk) : Disk :=
  if (process.recover disk).1 = .ok () then
    (process.command.body process.rest (process.recover disk).2).2
  else (process.recover disk).2

end NazoAuthCtl.SelfUpdate
