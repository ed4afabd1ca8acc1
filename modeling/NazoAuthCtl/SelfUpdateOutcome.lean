import NazoAuthCtl.SelfUpdateRecovery

/-!
# What a recovery of the controller comes to

A recovery in which every effect takes place ends the transaction that a lost process left,
unless the state directory is in one of two conditions that no recovery leaves again.
-/

set_option autoImplicit false
set_option linter.all false

namespace NazoAuthCtl.SelfUpdateOutcome
open FaultProgram SelfUpdate SelfUpdateRecovery
open FaultProgram.Program hiding pure bind

/-! ## Runs -/

/-- A directory that no replacement was started in. -/
structure Fresh (disk : Disk) : Prop where
  journal : disk.journal = none
  rollbackState : disk.rollbackState = none
  rollbacks : ∀ d, disk.files (.rollback d) = none
  candidates : ∀ d, disk.files (.candidate d) = none

/-- What any number of processes leave, each of them lost anywhere or nowhere. None of them is
run from a rollback or candidate file itself. -/
inductive Reached : Disk → Prop where
  | fresh (disk : Disk) (clean : Fresh disk) : Reached disk
  | run (disk : Disk) (process : Process) (before : Reached disk)
      (outside : ∃ path, process.rest.currentExe = .outside path) : Reached (process.run disk)

/-- Nothing is promised of a directory without a journal. -/
def nothing : Promise := fun _ _ => True

theorem Reached.sound {disk : Disk} (h : Reached disk) : Sound nothing disk := by
  induction h with
  | fresh disk clean =>
    have tidy : Tidy disk := by
      constructor
      · intro d x found
        rw [clean.rollbacks d] at found
        cases found
      · intro state found
        rw [clean.rollbackState] at found
        cases found
    refine ⟨tidy, fun _ => ⟨clean.candidates, trivial⟩, ?_⟩
    intro j recorded
    rw [clean.journal] at recorded
    cases recorded
  | run disk process before outside ih =>
    obtain ⟨path, exe⟩ := outside
    exact processRun_sound process exe ih fun _ _ _ _ => trivial

/-! ## A process that nothing happens to -/

def Quiet (e : Circumstances) : Prop := ∀ effect, e.faults effect = .none

section quiet

variable {e : Circumstances} {disk : Disk} {Q : Outcome Failure Unit → Disk → Prop}

theorem quiet_perform {effect : Effect} {change : Disk → Disk} {next : Unit → Action Unit}
    (quiet : Quiet e) (rest : Ensures (next ()) e Q (change disk)) :
    Ensures (perform effect change >>= next) e Q disk := by
  apply (ensures_bind _ _ _).mpr
  apply (ensures_effect _ _ _ _).mpr
  refine ⟨fun _ => rest, ?_, ?_⟩
  · intro d refused
    rw [quiet effect] at refused
    cases refused
  · intro lost
    rw [quiet effect] at lost
    cases lost

theorem quiet_last {effect : Effect} {change : Disk → Disk} (quiet : Quiet e)
    (rest : Q (.ok ()) (change disk)) : Ensures (perform effect change) e Q disk := by
  apply (ensures_effect _ _ _ _).mpr
  refine ⟨fun _ => rest, ?_, ?_⟩
  · intro d refused
    rw [quiet effect] at refused
    cases refused
  · intro lost
    rw [quiet effect] at lost
    cases lost

theorem passes_get {next : Disk → Action Unit} (rest : Ensures (next disk) e Q disk) :
    Ensures (get >>= next) e Q disk := rest

theorem passes_environment {next : Circumstances → Action Unit}
    (rest : Ensures (next e) e Q disk) : Ensures (environment >>= next) e Q disk := rest

theorem passes_require {c : Prop} [Decidable c] {failure : Failure} {next : Unit → Action Unit}
    (holds : c) (rest : Ensures (next ()) e Q disk) :
    Ensures (require c failure >>= next) e Q disk := by
  unfold Ensures
  rw [run_bind, run_require, if_pos holds]
  exact rest

theorem passes_secureDigest {place : Place} {label : String} {next : Digest → Action Unit}
    {d : Digest} (found : disk.files place = some d) (rest : Ensures (next d) e Q disk) :
    Ensures (secureDigest place label >>= next) e Q disk := by
  show Ensures (ofExcept (present label (disk.files place)) >>= next) e Q disk
  rw [found]
  exact rest

theorem passes_ensureDigest {place : Place} {expected : Digest} {label : String}
    {next : Unit → Action Unit} (found : disk.files place = some expected)
    (rest : Ensures (next ()) e Q disk) :
    Ensures (ensureDigest place expected label >>= next) e Q disk := by
  unfold ensureDigest
  rw [Program.bind_assoc]
  apply passes_secureDigest found
  exact passes_require rfl rest

theorem quiet_copyAtomic {effect : Effect} {content : Digest} {target : Place}
    {next : Unit → Action Unit} (quiet : Quiet e)
    (rest : Ensures (next ()) e Q (disk.put target content)) :
    Ensures (copyAtomic effect content content target >>= next) e Q disk := by
  unfold copyAtomic
  rw [Program.bind_assoc]
  apply passes_require rfl
  exact quiet_perform quiet rest

theorem quiet_advance {j : SelfUpdateJournal} {phase : SelfUpdatePhase}
    {next : SelfUpdateJournal → Action Unit} (quiet : Quiet e)
    (rest : Ensures (next { j with phase := phase }) e Q (disk.record { j with phase := phase })) :
    Ensures (advance j phase >>= next) e Q disk := by
  unfold advance
  rw [Program.bind_assoc]
  exact quiet_perform quiet rest

theorem quiet_advanceIf {c : Prop} [Decidable c] {j : SelfUpdateJournal}
    {phase : SelfUpdatePhase} {next : SelfUpdateJournal → Action Unit} (quiet : Quiet e)
    (yes : c → Ensures (next { j with phase := phase }) e Q
      (disk.record { j with phase := phase }))
    (no : ¬c → Ensures (next j) e Q disk) :
    Ensures (advanceIf c j phase >>= next) e Q disk := by
  unfold advanceIf
  by_cases holds : c
  · rw [if_pos holds]
    exact quiet_advance quiet (yes holds)
  · rw [if_neg holds]
    exact no holds

/-- A check that fails ends the program with an error of its own. -/
theorem refuses_ensureDigest {place : Place} {expected : Digest} {label : String}
    {next : Unit → Action Unit} (missing : disk.files place = none) :
    Ensures (ensureDigest place expected label >>= next) e
      (fun o _ => ∃ text, o = .error (.other text)) disk := by
  unfold ensureDigest
  rw [Program.bind_assoc]
  apply (ensures_bind _ _ _).mpr
  show Ensures (ofExcept (present label (disk.files place))) e _ disk
  rw [missing]
  exact ⟨_, rfl⟩

end quiet

/-! ## The end of a transaction -/

/-- The journal is gone, and the trust record names the binary that is installed. -/
def Settled (j : SelfUpdateJournal) (t : ControllerTrustState) (o : Outcome Failure Unit)
    (after : Disk) : Prop :=
  o = .ok () ∧ after.journal = none ∧ after.files j.installPath = some t.sha256 ∧
    after.trust = some t

section settling

variable {I : Promise} {e : Circumstances} {disk : Disk} {j : SelfUpdateJournal}

def fromRecord (j : SelfUpdateJournal) : ControllerTrustState := ⟨j.fromVersion, j.fromSha256⟩

def toRecord (j : SelfUpdateJournal) : ControllerTrustState := ⟨j.toVersion, j.toSha256⟩

theorem dropStaged_quiet {next : Unit → Action Unit} {Q : Outcome Failure Unit → Disk → Prop}
    (quiet : Quiet e) (h : UnderUpdate I disk j)
    (rest : ∀ after, after.files j.installPath = disk.files j.installPath →
      after.trust = disk.trust → Ensures (next ()) e Q after) :
    Ensures (dropStaged j >>= next) e Q disk := by
  unfold dropStaged
  rw [h.held.staged]
  unfold dropStagedAt
  simp only
  rw [Program.bind_assoc]
  apply passes_get
  obtain ⟨path, place⟩ := h.held.place
  rcases staged : disk.files (.candidate j.toSha256) with _ | x
  · rw [onlyIf_neg _ (by simp)]
    exact rest disk rfl rfl
  · obtain ⟨_, same⟩ := h.held.candidates _ x staged
    rw [onlyIf_pos _ (by simp), Program.bind_assoc]
    apply passes_require (congrArg some same)
    apply quiet_perform quiet
    exact rest _ (drop_other (by simp [place])) rfl

theorem finishUpdate_settles (quiet : Quiet e) (h : UnderUpdate I disk j)
    (phase : j.phase = .trustCommitted)
    (installed : disk.files j.installPath = some j.toSha256)
    (trusted : disk.trust = some (toRecord j)) :
    Ensures (finishSelfUpdateJournal j) e (Settled j (toRecord j)) disk := by
  apply passes_require phase
  apply dropStaged_quiet quiet h
  intro after install trust
  apply quiet_last quiet
  exact ⟨rfl, rfl, install.trans installed, trust.trans trusted⟩

theorem concludeTrust_settles (quiet : Quiet e) (h : UnderUpdate I disk j)
    (phase : j.phase = .rollbackStateCommitted ∨ j.phase = .trustCommitted)
    (installed : disk.files j.installPath = some j.toSha256) :
    Ensures (concludeTrust j) e (Settled j (toRecord j)) disk := by
  have late : isUnstarted j.phase = false := by
    rcases phase with phase | phase
    · rw [phase]
      rfl
    · rw [phase]
      rfl
  have trusted := h.trusting late (some (toRecord j))
  apply quiet_perform quiet
  apply quiet_advanceIf quiet
  · intro _
    exact finishUpdate_settles quiet (trusted.advance _ rfl installed) rfl installed rfl
  · intro other
    exact finishUpdate_settles quiet trusted (phase.resolve_left other) installed rfl

theorem concludeRollbackState_settles (quiet : Quiet e) (h : UnderUpdate I disk j)
    (late : isUnstarted j.phase = false)
    (prepared : disk.files (.rollback j.fromSha256) = some j.fromSha256)
    (installed : disk.files j.installPath = some j.toSha256) :
    Ensures (concludeRollbackState j) e (Settled j (toRecord j)) disk := by
  unfold concludeRollbackState commitControllerRollbackState
  rw [Program.bind_assoc, h.held.artifact.1]
  apply passes_ensureDigest prepared
  apply quiet_perform quiet
  have kept := h.keeping j.fromVersion j.fromSha256 j.fromSha256
  apply quiet_advanceIf quiet
  · intro _
    exact concludeTrust_settles quiet (kept.advance _ rfl installed) (.inl rfl) installed
  · intro other
    apply concludeTrust_settles quiet kept ?_ installed
    rcases j with ⟨_, _, phase, _, _, _, _, _, _, _, _⟩
    cases phase with
    | rollbackStateCommitted => exact .inl rfl
    | trustCommitted => exact .inr rfl
    | installed => exact absurd rfl other
    | intent => cases late
    | rollbackPrepared => cases late
    | candidatePrepared => cases late
    | candidateVerified => cases late

theorem concludeUpdate_settles (quiet : Quiet e) (h : UnderUpdate I disk j)
    (prepared : disk.files (.rollback j.fromSha256) = some j.fromSha256)
    (installed : disk.files j.installPath = some j.toSha256) :
    Ensures (concludeUpdate j) e (Settled j (toRecord j)) disk := by
  apply quiet_advanceIf quiet
  · intro _
    exact concludeRollbackState_settles quiet (h.advance _ rfl installed) rfl prepared installed
  · intro late
    exact concludeRollbackState_settles quiet h (Bool.eq_false_iff.mpr late) prepared installed

theorem finishRollback_settles (quiet : Quiet e) (h : UnderRollback I disk j)
    (phase : j.phase = .trustCommitted)
    (installed : disk.files j.installPath = some j.toSha256)
    (trusted : disk.trust = some (toRecord j)) :
    Ensures (finishSelfUpdateJournal j) e (Settled j (toRecord j)) disk := by
  apply passes_require phase
  unfold dropStaged
  rw [h.held.staged]
  apply quiet_last quiet
  exact ⟨rfl, rfl, installed, trusted⟩

theorem concludeRollback_settles (quiet : Quiet e) (h : UnderRollback I disk j)
    (phase : j.phase ≠ .intent) (installed : disk.files j.installPath = some j.toSha256) :
    Ensures (concludeRollback j) e (Settled j (toRecord j)) disk := by
  have trusted := h.trusting (some (toRecord j))
  apply quiet_perform quiet
  apply quiet_advanceIf quiet
  · intro _
    exact finishRollback_settles quiet (trusted.advance (.inr rfl) installed) rfl installed rfl
  · intro other
    have last := (h.held.phase.resolve_left phase).resolve_left other
    exact finishRollback_settles quiet trusted last installed rfl

theorem recoverRollback_settles (quiet : Quiet e) (h : UnderRollback I disk j) :
    Ensures (recoverRollbackJournal j) e (Settled j (toRecord j)) disk := by
  obtain ⟨artifact, bound⟩ := h.held.bound
  apply passes_get
  apply passes_require (by simp [artifact])
  apply passes_require ⟨by rw [artifact, bound], bound⟩
  by_cases current : disk.files j.installPath ≠ some j.toSha256
  · rw [if_pos current]
    apply passes_require (.inr (h.held.installed.resolve_right current))
    unfold reinstallRollback
    simp only [Program.bind_assoc]
    apply passes_secureDigest artifact
    apply quiet_copyAtomic quiet
    apply quiet_advance quiet
    exact concludeRollback_settles quiet (h.install.advance (.inl rfl) put_same) (by simp)
      put_same
  · rw [if_neg current]
    have installed := not_not.mp current
    by_cases phase : j.phase = .intent
    · rw [if_pos phase]
      apply quiet_advance quiet
      exact concludeRollback_settles quiet (h.advance (.inl rfl) installed) (by simp) installed
    · rw [if_neg phase]
      exact concludeRollback_settles quiet h phase installed

theorem restore_settles (quiet : Quiet e) (h : UnderUpdate I disk j)
    (prepared : disk.files (.rollback j.fromSha256) = some j.fromSha256) :
    Ensures (restoreRejectedUpdate j) e (Settled j (fromRecord j)) disk := by
  have artifact : disk.files j.rollbackArtifact = some j.fromSha256 := by
    rw [h.held.artifact.1]
    exact prepared
  apply passes_ensureDigest artifact
  unfold dropRejected
  rw [h.held.staged]
  unfold dropRejectedAt
  simp only
  rw [Program.bind_assoc]
  apply passes_get
  rcases staged : disk.files (.candidate j.toSha256) with _ | x
  · rw [onlyIf_neg _ (by simp)]
    apply quiet_perform quiet
    exact recoverRollback_settles quiet (h.reverse artifact (h.unstaged staged))
  · obtain ⟨_, same⟩ := h.held.candidates _ x staged
    rw [onlyIf_pos _ (by simp), Program.bind_assoc]
    rw [same] at staged
    apply passes_ensureDigest staged
    apply quiet_perform quiet
    obtain ⟨after, gone⟩ := h.unstage
    have kept : (disk.drop (.candidate j.toSha256)).files j.rollbackArtifact
        = some j.fromSha256 := by
      rw [drop_other (by simp [h.held.artifact.1])]
      exact artifact
    apply quiet_perform quiet
    exact recoverRollback_settles quiet (after.reverse kept gone)

end settling

/-! ## Recovery -/

/-- What the next recovery owes to an interrupted transaction. -/
structure Landed (j : SelfUpdateJournal) (before : Disk) (o : Outcome Failure Unit)
    (after : Disk) : Prop where
  answer : o = .ok () ∨ ∃ detail, o = .error (.refused detail)
  retired : after.journal = none
  /-- The trust record names the installed binary, or the transaction has installed none. -/
  named : (∃ t, (t = fromRecord j ∨ t = toRecord j) ∧
      after.files j.installPath = some t.sha256 ∧ after.trust = some t) ∨
    before.files j.installPath = some j.fromSha256 ∧ j.fromSha256 ≠ j.toSha256 ∧
      after.files j.installPath = some j.fromSha256 ∧ after.trust = before.trust

/-- The two conditions of an update that no recovery gets out of: source and candidate are one
binary whose rollback copy was never made, or the candidate was refused and its staged copy
removed, and its journal was not. -/
def Stranded (disk : Disk) : Prop :=
  ∃ j, disk.journal = some j ∧ j.operation = .update ∧
    (j.fromSha256 = j.toSha256 ∧ disk.files (.rollback j.fromSha256) = none ∨
      j.fromSha256 ≠ j.toSha256 ∧ disk.files j.installPath = some j.fromSha256 ∧
      disk.files (.candidate j.toSha256) = none ∧
      (j.phase = .candidatePrepared ∨ j.phase = .candidateVerified))

section recovery

variable {I : Promise} {e : Circumstances} {disk : Disk} {j : SelfUpdateJournal}

theorem landed_of_settled {t : ControllerTrustState} (known : t = fromRecord j ∨ t = toRecord j)
    {o : Outcome Failure Unit} {after : Disk} (settled : Settled j t o after) :
    Landed j disk o after := by
  obtain ⟨answer, retired, installed, trusted⟩ := settled
  exact ⟨.inl answer, retired, .inl ⟨t, known, installed, trusted⟩⟩

/-- A restoration ends with the candidate's own refusal. -/
theorem restored_lands (quiet : Quiet e) (h : UnderUpdate I disk j)
    (prepared : disk.files (.rollback j.fromSha256) = some j.fromSha256) (detail : String)
    (before : Disk) :
    Ensures (restoreRejectedUpdate j >>= fun _ => (throw (restored detail) : Action Unit)) e
      (Landed j before) disk := by
  apply Ensures.bind (restore_settles quiet h prepared)
  intro o after settled
  obtain ⟨answer, retired, installed, trusted⟩ := settled
  subst answer
  exact ⟨.inr ⟨_, rfl⟩, retired, .inl ⟨_, .inl rfl, installed, trusted⟩⟩

theorem settleInstalled_lands (quiet : Quiet e) (h : UnderUpdate I disk j)
    (prepared : disk.files (.rollback j.fromSha256) = some j.fromSha256)
    (installed : disk.files j.installPath = some j.toSha256) (before : Disk) :
    Ensures (settleInstalled j) e (Landed j before) disk := by
  apply passes_environment
  rcases e.verifyCandidateState j.installPath with detail | _
  · exact restored_lands quiet h prepared detail before
  · apply (concludeUpdate_settles quiet h prepared installed).mono
    intro o after settled
    exact landed_of_settled (.inr rfl) settled

/-- A journal whose transaction installed nothing is retired. -/
theorem discard_lands (quiet : Quiet e) (h : UnderUpdate I disk j)
    (early : isUnstarted j.phase) (differs : j.fromSha256 ≠ j.toSha256)
    (source : disk.files j.installPath = some j.fromSha256) :
    Ensures (discardUnstartedSelfUpdateJournal j) e
      (fun o after => o = .ok () ∧ Landed j disk o after) disk := by
  apply passes_require early
  apply passes_ensureDigest source
  apply dropStaged_quiet quiet h
  intro after install trust
  apply quiet_last quiet
  exact ⟨rfl, .inl rfl, rfl, .inr ⟨source, differs, install.trans source, trust⟩⟩

theorem installStaged_lands (quiet : Quiet e) (h : UnderUpdate I disk j)
    (early : isUnstarted j.phase) (staged : disk.files (.candidate j.toSha256) = some j.toSha256)
    (before : Disk) :
    Ensures (installStaged j (.candidate j.toSha256)) e (Landed j before) disk := by
  have prepared := h.held.prepared (.inl (by simp [staged]))
  have verified := h.check .candidateVerified rfl early
  obtain ⟨path, place⟩ := h.held.place
  apply quiet_advance quiet
  have content : (disk.record { j with phase := .candidateVerified }).files
      (.candidate j.toSha256) = some j.toSha256 := staged
  apply passes_secureDigest content
  apply quiet_copyAtomic quiet
  have replaced := verified.install prepared
  apply quiet_advance quiet
  have done := replaced.advance .installed rfl put_same
  have kept : ((disk.record { j with phase := .candidateVerified }).put j.installPath
      j.toSha256).files (.rollback j.fromSha256) = some j.fromSha256 := by
    rw [put_other (by simp [place])]
    exact prepared
  apply (settleInstalled_lands quiet done kept put_same before).mono
  intro o after landed
  exact ⟨landed.answer, landed.retired, landed.named⟩

/-- A candidate that the verdict goes against is cleaned away, and its refusal is the answer. -/
theorem recoverStaged_lands (quiet : Quiet e) (h : UnderUpdate I disk j)
    (early : isUnstarted j.phase) (differs : j.fromSha256 ≠ j.toSha256)
    (source : disk.files j.installPath = some j.fromSha256)
    (staged : disk.files (.candidate j.toSha256) = some j.toSha256) :
    Ensures (recoverStaged j (.candidate j.toSha256)) e (Landed j disk) disk := by
  apply passes_environment
  apply passes_get
  rcases e.verifyCandidateState (.candidate j.toSha256) with detail | _
  · have there : disk.files j.installPath ≠ none := by simp [source]
    simp only [judged]
    rw [onlyIf_neg _ there]
    apply Ensures.bind (discard_lands quiet h early differs source)
    intro o after ended
    obtain ⟨passed, landed⟩ := ended
    subst passed
    exact ⟨.inr ⟨detail, rfl⟩, landed.retired, landed.named⟩
  · exact installStaged_lands quiet h early staged disk

theorem early_of_source (h : UnderUpdate I disk j) (differs : j.fromSha256 ≠ j.toSha256)
    (source : disk.files j.installPath = some j.fromSha256) : isUnstarted j.phase := by
  by_contra late
  have installed := h.held.begun (Bool.eq_false_iff.mpr late)
  rw [source] at installed
  exact differs (Option.some.inj installed)

theorem recoverUpdate_lands (quiet : Quiet e) (h : UnderUpdate I disk j)
    (free : ¬Stranded disk) : Ensures (recoverUpdateJournal j) e (Landed j disk) disk := by
  apply passes_get
  apply passes_require h.rollback_bound
  apply passes_require h.candidate_bound
  by_cases installed : disk.files j.installPath = some j.toSha256
  · rw [if_pos installed]
    apply settleInstalled_lands quiet h ?_ installed
    by_cases same : j.fromSha256 = j.toSha256
    · rcases found : disk.files (.rollback j.fromSha256) with _ | x
      · exact absurd ⟨j, h.recorded, h.held.operation, .inl ⟨same, found⟩⟩ free
      · rw [h.tidy.rollbacks _ x found]
    · apply h.held.prepared
      right
      rw [installed]
      intro equal
      exact same (Option.some.inj equal).symm
  · rw [if_neg installed]
    have source := h.held.installed.resolve_right installed
    have differs : j.fromSha256 ≠ j.toSha256 := by
      intro same
      rw [same] at source
      exact installed source
    have early := early_of_source h differs source
    apply passes_require (.inr source)
    rw [h.held.staged]
    simp only
    by_cases staged : disk.files (.candidate j.toSha256) = some j.toSha256
    · rw [if_pos staged]
      exact recoverStaged_lands quiet h early differs source staged
    · rw [if_neg staged]
      have missing : disk.files (.candidate j.toSha256) = none := by
        rcases found : disk.files (.candidate j.toSha256) with _ | x
        · rfl
        · rw [(h.held.candidates _ x found).2] at found
          exact absurd found staged
      have phase : j.phase = .intent ∨ j.phase = .rollbackPrepared := by
        by_contra others
        apply free
        refine ⟨j, h.recorded, h.held.operation, .inr ⟨differs, source, missing, ?_⟩⟩
        simp only [isUnstarted, List.mem_cons, List.not_mem_nil, or_false,
          decide_eq_true_eq] at early
        rcases early with intent | prepared | candidate | verified
        · exact absurd (.inl intent) others
        · exact absurd (.inr prepared) others
        · exact .inl candidate
        · exact .inr verified
      unfold recoverUnstaged
      rw [if_pos ⟨source, phase⟩]
      apply (discard_lands quiet h early differs source).mono
      intro o after ended
      exact ended.2

theorem recoverRollback_lands (quiet : Quiet e) (h : UnderRollback I disk j) :
    Ensures (recoverRollbackJournal j) e (Landed j disk) disk := by
  apply (recoverRollback_settles quiet h).mono
  intro o after settled
  exact landed_of_settled (.inr rfl) settled

theorem recoverJournal_lands (quiet : Quiet e) (sound : Sound I disk)
    (recorded : disk.journal = some j) (exe : e.currentExe = j.installPath)
    (free : ¬Stranded disk) : Ensures (recoverJournal j) e (Landed j disk) disk := by
  apply passes_environment
  apply passes_require exe
  rcases sound.held j recorded with update | rollback
  · rw [update.held.operation]
    exact recoverUpdate_lands quiet update free
  · rw [rollback.held.operation]
    exact recoverRollback_lands quiet rollback

/-- Without a rollback copy neither verdict on the installed binary can be acted on. -/
theorem settleInstalled_refuses (quiet : Quiet e) (h : UnderUpdate I disk j)
    (missing : disk.files (.rollback j.fromSha256) = none) :
    Ensures (settleInstalled j) e (fun o _ => ∃ text, o = .error (.other text)) disk := by
  apply passes_environment
  rcases e.verifyCandidateState j.installPath with detail | _
  · simp only [judged]
    unfold restoreRejectedUpdate
    rw [Program.bind_assoc, h.held.artifact.1]
    exact refuses_ensureDigest missing
  · simp only [judged]
    apply quiet_advanceIf quiet
    all_goals
      intro _
      unfold concludeRollbackState commitControllerRollbackState
      rw [Program.bind_assoc, h.held.artifact.1]
      exact refuses_ensureDigest missing

theorem stranded_refuses (quiet : Quiet e) (sound : Sound I disk)
    (recorded : disk.journal = some j) (exe : e.currentExe = j.installPath)
    (stranded : Stranded disk) :
    Ensures (recoverJournal j) e (fun o _ => ∃ text, o = .error (.other text)) disk := by
  obtain ⟨k, same, operation, condition⟩ := stranded
  rw [recorded] at same
  cases same
  have h : UnderUpdate I disk j := by
    rcases sound.held j recorded with update | rollback
    · exact update
    · rw [rollback.held.operation] at operation
      cases operation
  apply passes_environment
  apply passes_require exe
  rw [operation]
  have unstaged : disk.files (.candidate j.toSha256) = none := by
    rcases condition with ⟨_, missing⟩ | ⟨_, _, missing, _⟩
    · rcases found : disk.files (.candidate j.toSha256) with _ | x
      · rfl
      · rw [h.held.prepared (.inl (by simp [found]))] at missing
        cases missing
    · exact missing
  apply passes_get
  apply passes_require h.rollback_bound
  apply passes_require h.candidate_bound
  rcases condition with ⟨same, missing⟩ | ⟨differs, source, _, phase⟩
  · have installed : disk.files j.installPath = some j.toSha256 := by
      rcases h.held.installed with source | target
      · rw [source, same]
      · exact target
    rw [if_pos installed]
    exact settleInstalled_refuses quiet h missing
  · have other : ¬disk.files j.installPath = some j.toSha256 := by
      rw [source]
      intro equal
      exact differs (Option.some.inj equal)
    rw [if_neg other]
    apply passes_require (.inr source)
    rw [h.held.staged]
    simp only
    rw [if_neg (by simp [unstaged])]
    unfold recoverUnstaged
    rw [if_neg]
    · exact ⟨_, rfl⟩
    · rcases phase with phase | phase
      · simp [phase]
      · simp [phase]

end recovery

/-! ## The whole property -/

/-- The file at the install path is the source or the target of the transaction. -/
def Exact (j : SelfUpdateJournal) (files : Place → Option Digest) : Prop :=
  files j.installPath = some j.fromSha256 ∨ files j.installPath = some j.toSha256

/-- The next recovery ends the recorded transaction, and the one after it does nothing. -/
def Lands (e : Circumstances) (disk : Disk) (j : SelfUpdateJournal) : Prop :=
  Landed j disk (recoverControllerSelfOperation e disk).1
      (recoverControllerSelfOperation e disk).2 ∧
  ∀ again, recoverControllerSelfOperation again (recoverControllerSelfOperation e disk).2
    = (.ok (), (recoverControllerSelfOperation e disk).2)

section whole

variable {I : Promise} {e : Circumstances} {disk : Disk} {j : SelfUpdateJournal}

theorem sound_exact (sound : Sound I disk) (recorded : disk.journal = some j) :
    Exact j disk.files := by
  rcases sound.held j recorded with update | rollback
  · exact update.held.installed
  · exact rollback.held.installed

theorem recover_recorded (recorded : disk.journal = some j) :
    recoverControllerSelfOperation e disk = recoverJournal j e disk := by
  show recoverRecorded disk.journal e disk = _
  rw [recorded]
  rfl

theorem recover_idle (idle : disk.journal = none) :
    recoverControllerSelfOperation e disk = (.ok (), disk) := by
  show recoverRecorded disk.journal e disk = _
  rw [idle]
  rfl

theorem elsewhere_refuses (exe : e.currentExe ≠ j.installPath) :
    Ensures (recoverJournal j) e (fun o _ => ∃ text, o = .error (.other text)) disk := by
  apply passes_environment
  apply (ensures_bind _ _ _).mpr
  apply (ensures_require _ _ _).mpr
  exact ⟨fun same => absurd same exe, fun _ => ⟨_, rfl⟩⟩

theorem Landed.answered {o : Outcome Failure Unit} {before after : Disk}
    (landed : Landed j before o after) : ¬∃ text, o = .error (.other text) := by
  intro ⟨text, other⟩
  rcases landed.answer with passed | ⟨detail, refused⟩
  · rw [passed] at other
    cases other
  · rw [refused] at other
    cases other

theorem lands_iff (sound : Sound I disk) (recorded : disk.journal = some j) (quiet : Quiet e) :
    Lands e disk j ↔ e.currentExe = j.installPath ∧ ¬Stranded disk := by
  unfold Lands
  rw [recover_recorded recorded]
  constructor
  · intro lands
    have answered := lands.1.answered
    have exe : e.currentExe = j.installPath := by
      by_contra elsewhere
      exact answered (elsewhere_refuses elsewhere)
    refine ⟨exe, ?_⟩
    intro stranded
    exact answered (stranded_refuses quiet sound recorded exe stranded)
  · intro ⟨exe, free⟩
    have landed := recoverJournal_lands quiet sound recorded exe free
    exact ⟨landed, fun again => recover_idle landed.retired⟩

/-- A recovery that may be lost anywhere leaves the source or the target too. -/
theorem recover_exact (process : Process) (sound : Sound I disk)
    (recorded : disk.journal = some j)
    (retired : (process.recover disk).2.journal = none) :
    Exact j (process.recover disk).2.files := by
  have own : Sound (fun files _ => Exact j files) disk := by
    refine ⟨sound.tidy, ?_, ?_⟩
    · intro idle
      rw [recorded] at idle
      cases idle
    · intro k same
      rw [recorded] at same
      cases same
      rcases sound.held j recorded with update | rollback
      · left
        exact ⟨update.tidy, update.recorded, update.held,
          ⟨fun _ => .inr, fun _ => .inl, fun _ _ => .inl⟩⟩
      · right
        exact ⟨rollback.tidy, rollback.recorded, rollback.held, fun _ => .inr⟩
  exact ((processRecover_sound process own).idle retired).2

/-- A process after its recovery: nothing was replaced, or trust names what is installed. -/
theorem run_kept (process : Process) (sound : Sound nothing disk) {path : String}
    (exe : process.rest.currentExe = .outside path)
    (passed : (process.recover disk).1 = .ok ()) (idle : (process.run disk).journal = none) :
    Kept process.rest (process.recover disk).2 (process.run disk).files
      (process.run disk).trust := by
  have recovered := processRecover_sound process sound
  have start := processRecover_idle process passed
  have own : Sound (Kept process.rest (process.recover disk).2) (process.recover disk).2 := by
    refine ⟨recovered.tidy, ?_, ?_⟩
    · intro _
      exact ⟨(recovered.idle start).1, .inl ⟨rfl, rfl⟩⟩
    · intro k recorded
      rw [start] at recorded
      cases recorded
  have ended := body_safe process.command own start exe fun _ _ kept => kept
  unfold Process.run at idle ⊢
  rw [if_pos passed] at idle ⊢
  exact (ended.idle idle).2

end whole

/-- Wherever processes were lost: the installed file is the source or the target of the
transaction, and the next recovery that nothing happens to ends the transaction, exactly where
it is run from the recorded install path and the directory is not stranded. -/
theorem replacement_lands_iff (disk : Disk) (reached : Reached disk) :
    (∀ j, disk.journal = some j → Exact j disk.files) ∧
    (∀ j (process : Process), disk.journal = some j → (process.recover disk).2.journal = none →
      Exact j (process.recover disk).2.files) ∧
    (∀ (process : Process) path, process.rest.currentExe = .outside path →
      (process.recover disk).1 = .ok () → (process.run disk).journal = none →
      Kept process.rest (process.recover disk).2 (process.run disk).files
        (process.run disk).trust) ∧
    (disk.journal = none → ∀ e, recoverControllerSelfOperation e disk = (.ok (), disk)) ∧
    ∀ j e, disk.journal = some j → Quiet e →
      (Lands e disk j ↔ e.currentExe = j.installPath ∧ ¬Stranded disk) := by
  have sound := reached.sound
  refine ⟨?_, ?_, ?_, ?_, ?_⟩
  · intro j recorded
    exact sound_exact sound recorded
  · intro j process recorded retired
    exact recover_exact process sound recorded retired
  · intro process path exe passed idle
    exact run_kept process sound exe passed idle
  · intro idle e
    exact recover_idle idle
  · intro j e recorded quiet
    exact lands_iff sound recorded quiet

/-! ## Two runs that strand, one that does not -/

section runs

/-- A controller of version 1.0.0 and digest 1 that nothing was done to. -/
def bare : Disk where
  files place := if place = .outside "/usr/local/bin/nazoauthctl" then some 1 else none
  journal := none
  rollbackState := none
  trust := none

theorem bare_fresh : Fresh bare := ⟨rfl, rfl, fun _ => rfl, fun _ => rfl⟩

/-- One process that an effect is lost in, or none. -/
def meets (offered : VerifiedControllerRelease) (order : Ordering)
    (verdict : Except String Unit) (lost : Option Effect) : Circumstances where
  currentExe := .outside "/usr/local/bin/nazoauthctl"
  packageVersion := "1.0.0"
  transactionId := 7
  release := .ok (some offered)
  parseReleaseVersion _ := .ok ()
  compareVersions _ _ := .ok order
  verifyCandidateState _ := verdict
  faults effect := if lost = some effect then .crash else .none

def updating (rest : Circumstances) : Process where
  command := .update
  recovery := meets ⟨"v1.1.0", 2⟩ .gt (.ok ()) none
  rest := rest

/-- The candidate is refused, and the process is lost between its removal and the journal's. -/
def refusedRun : Process :=
  updating (meets ⟨"v1.1.0", 2⟩ .gt (.error "unreadable state") (some .removeJournal))

/-- The release is the one that runs, and the process is lost before the rollback copy. -/
def sameReleaseRun : Process :=
  updating (meets ⟨"v1.0.0", 1⟩ .eq (.ok ()) (some .copyRollback))

/-- The process is lost after the candidate was installed. -/
def installedRun : Process :=
  updating (meets ⟨"v1.1.0", 2⟩ .gt (.ok ()) (some (.trust .update)))

def quietly : Circumstances := meets ⟨"v1.1.0", 2⟩ .gt (.ok ()) none

theorem quietly_quiet : Quiet quietly := fun _ => rfl

theorem bare_reaches (rest : Circumstances) (exe : rest.currentExe = quietly.currentExe) :
    Reached ((updating rest).run bare) :=
  .run bare _ (.fresh bare bare_fresh) ⟨_, exe⟩

def bareIntent (offered : VerifiedControllerRelease) (phase : SelfUpdatePhase) :
    SelfUpdateJournal :=
  { updateIntent quietly none offered 1 with phase := phase }

/-- Both runs leave a journal that no recovery ends from its own install path. -/
theorem interrupted_cleanup_strands :
    (Reached (refusedRun.run bare) ∧
      (refusedRun.run bare).journal = some (bareIntent ⟨"v1.1.0", 2⟩ .candidatePrepared) ∧
      ¬Lands quietly (refusedRun.run bare) (bareIntent ⟨"v1.1.0", 2⟩ .candidatePrepared)) ∧
    (Reached (sameReleaseRun.run bare) ∧
      (sameReleaseRun.run bare).journal = some (bareIntent ⟨"v1.0.0", 1⟩ .intent) ∧
      ¬Lands quietly (sameReleaseRun.run bare) (bareIntent ⟨"v1.0.0", 1⟩ .intent)) ∧
    Quiet quietly := by
  refine ⟨⟨bare_reaches _ rfl, by decide, ?_⟩, ⟨bare_reaches _ rfl, by decide, ?_⟩,
    quietly_quiet⟩
  · intro lands
    have answer : (recoverControllerSelfOperation quietly (refusedRun.run bare)).1
        = .error (.other "controller self-update journal cannot recover its candidate") := by
      decide
    exact lands.1.answered ⟨_, answer⟩
  · intro lands
    have answer : (recoverControllerSelfOperation quietly (sameReleaseRun.run bare)).1
        = .error (.other "failed to inspect rollback artifact") := by decide
    exact lands.1.answered ⟨_, answer⟩

theorem installed_candidate_lands :
    Lands quietly (installedRun.run bare) (bareIntent ⟨"v1.1.0", 2⟩ .rollbackStateCommitted) := by
  have recorded : (installedRun.run bare).journal
      = some (bareIntent ⟨"v1.1.0", 2⟩ .rollbackStateCommitted) := by decide
  have results := replacement_lands_iff (installedRun.run bare) (bare_reaches _ rfl)
  apply (results.2.2.2.2 _ quietly recorded quietly_quiet).mpr
  refine ⟨rfl, ?_⟩
  intro ⟨j, same, _, condition⟩
  rw [recorded] at same
  cases same
  rcases condition with ⟨one, _⟩ | ⟨_, source, _⟩
  · exact absurd one (by decide)
  · exact absurd source (by decide)

end runs

end NazoAuthCtl.SelfUpdateOutcome
