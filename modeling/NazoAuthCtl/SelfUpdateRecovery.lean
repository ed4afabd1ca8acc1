import NazoAuthCtl.SelfUpdate

/-!
# Interrupted replacements of the controller

What holds of the state directory and the install path whenever a process is lost, and the
states from which a recovery without failures ends the transaction.
-/

set_option autoImplicit false
set_option linter.all false

namespace NazoAuthCtl.SelfUpdateRecovery
open FaultProgram SelfUpdate
open FaultProgram.Program hiding pure bind

/-! ## What holds at every moment -/

/-- The files of an update under way. -/
structure HeldUpdate (files : Place → Option Digest) (j : SelfUpdateJournal) : Prop where
  operation : j.operation = .update
  place : ∃ path, j.installPath = .outside path
  artifact : j.rollbackArtifact = .rollback j.fromSha256 ∧ j.rollbackSha256 = j.fromSha256
  staged : j.stagedArtifact = some (.candidate j.toSha256)
  installed : files j.installPath = some j.fromSha256 ∨ files j.installPath = some j.toSha256
  candidates : ∀ d x, files (.candidate d) = some x → d = j.toSha256 ∧ x = j.toSha256
  prepared : files (.candidate j.toSha256) ≠ none ∨ files j.installPath ≠ some j.fromSha256 →
    files (.rollback j.fromSha256) = some j.fromSha256
  begun : isUnstarted j.phase = false → files j.installPath = some j.toSha256

/-- The files of a rollback under way. -/
structure HeldRollback (files : Place → Option Digest) (j : SelfUpdateJournal) : Prop where
  operation : j.operation = .rollback
  place : ∃ path, j.installPath = .outside path
  artifact : ∃ d, j.rollbackArtifact = .rollback d
  bound : files j.rollbackArtifact = some j.toSha256 ∧ j.rollbackSha256 = j.toSha256
  staged : j.stagedArtifact = none
  installed : files j.installPath = some j.fromSha256 ∨ files j.installPath = some j.toSha256
  candidates : ∀ d, files (.candidate d) = none
  phase : j.phase = .intent ∨ j.phase = .installed ∨ j.phase = .trustCommitted
  begun : j.phase ≠ .intent → files j.installPath = some j.toSha256

/-- A rollback file is named by its digest. -/
structure Tidy (disk : Disk) : Prop where
  rollbacks : ∀ d x, disk.files (.rollback d) = some x → x = d
  target : ∀ state, disk.rollbackState = some state → ∃ d, state.artifact = .rollback d

/-- What a directory without a journal has to say of the files and of the trust record. -/
abbrev Promise : Type := (Place → Option Digest) → Option ControllerTrustState → Prop

/-- An update keeps the promise with its target, back at its source, and where it stopped before
it installed anything. -/
structure Promised (I : Promise) (trust : Option ControllerTrustState) (j : SelfUpdateJournal) :
    Prop where
  settled : ∀ files, files j.installPath = some j.toSha256 →
    I files (some ⟨j.toVersion, j.toSha256⟩)
  back : ∀ files, files j.installPath = some j.fromSha256 →
    I files (some ⟨j.fromVersion, j.fromSha256⟩)
  unstarted : isUnstarted j.phase → ∀ files, files j.installPath = some j.fromSha256 →
    I files trust

structure UnderUpdate (I : Promise) (disk : Disk) (j : SelfUpdateJournal) : Prop where
  tidy : Tidy disk
  recorded : disk.journal = some j
  held : HeldUpdate disk.files j
  promised : Promised I disk.trust j

structure UnderRollback (I : Promise) (disk : Disk) (j : SelfUpdateJournal) : Prop where
  tidy : Tidy disk
  recorded : disk.journal = some j
  held : HeldRollback disk.files j
  settled : ∀ files, files j.installPath = some j.toSha256 →
    I files (some ⟨j.toVersion, j.toSha256⟩)

structure Sound (I : Promise) (disk : Disk) : Prop where
  tidy : Tidy disk
  idle : disk.journal = none → (∀ d, disk.files (.candidate d) = none) ∧ I disk.files disk.trust
  held : ∀ j, disk.journal = some j → UnderUpdate I disk j ∨ UnderRollback I disk j

theorem UnderUpdate.sound {I : Promise} {disk : Disk} {j : SelfUpdateJournal}
    (h : UnderUpdate I disk j) : Sound I disk where
  tidy := h.tidy
  idle none_recorded := by
    rw [h.recorded] at none_recorded
    cases none_recorded
  held k recorded := by
    rw [h.recorded] at recorded
    cases recorded
    exact .inl h

theorem UnderRollback.sound {I : Promise} {disk : Disk} {j : SelfUpdateJournal}
    (h : UnderRollback I disk j) : Sound I disk where
  tidy := h.tidy
  idle none_recorded := by
    rw [h.recorded] at none_recorded
    cases none_recorded
  held k recorded := by
    rw [h.recorded] at recorded
    cases recorded
    exact .inr h

/-- However the program ends, what holds at every moment holds then. -/
abbrev Safe (I : Promise) {α : Type} (p : Action α) (e : Circumstances) (disk : Disk) : Prop :=
  Ensures p e (fun _ after => Sound I after) disk

section rules

variable {I : Promise} {α β : Type} {e : Circumstances} {disk : Disk}

theorem safe_throw (now : Sound I disk) (x : Failure) : Safe I (throw x : Action α) e disk := now

theorem safe_environment {next : Circumstances → Action β} (rest : Safe I (next e) e disk) :
    Safe I (environment >>= next) e disk := rest

theorem safe_get {next : Disk → Action β} (rest : Safe I (next disk) e disk) :
    Safe I (get >>= next) e disk := rest

theorem safe_ofExcept {x : Except Failure α} {next : α → Action β} (now : Sound I disk)
    (rest : ∀ a, x = .ok a → Safe I (next a) e disk) : Safe I (ofExcept x >>= next) e disk := by
  cases x with
  | ok a => exact rest a rfl
  | error failure => exact now

theorem safe_require {c : Prop} [Decidable c] {failure : Failure} {next : Unit → Action β}
    (now : Sound I disk) (rest : c → Safe I (next ()) e disk) :
    Safe I (require c failure >>= next) e disk := by
  unfold Safe Ensures
  rw [run_bind, run_require]
  by_cases holds : c
  · rw [if_pos holds]
    exact rest holds
  · rw [if_neg holds]
    exact now

theorem safe_perform {effect : Effect} {change : Disk → Disk} (now : Sound I disk)
    (done : Sound I (change disk)) : Safe I (perform effect change) e disk :=
  (ensures_effect _ _ _ _).mpr ⟨fun _ => done, fun _ _ => now, fun _ => now⟩

theorem safe_perform_bind {effect : Effect} {change : Disk → Disk} {next : Unit → Action β}
    (now : Sound I disk) (rest : Safe I (next ()) e (change disk)) :
    Safe I (perform effect change >>= next) e disk :=
  (ensures_bind _ _ _).mpr
    ((ensures_effect _ _ _ _).mpr ⟨fun _ => rest, fun _ _ => now, fun _ => now⟩)

theorem safe_secureDigest {place : Place} {label : String} {next : Digest → Action β}
    (now : Sound I disk) (rest : ∀ d, disk.files place = some d → Safe I (next d) e disk) :
    Safe I (secureDigest place label >>= next) e disk := by
  show Safe I (ofExcept (present label (disk.files place)) >>= next) e disk
  rcases found : disk.files place with _ | d
  · exact now
  · exact rest d found

theorem safe_ensureDigest {place : Place} {expected : Digest} {label : String}
    {next : Unit → Action β} (now : Sound I disk)
    (rest : disk.files place = some expected → Safe I (next ()) e disk) :
    Safe I (ensureDigest place expected label >>= next) e disk := by
  unfold ensureDigest
  rw [Program.bind_assoc]
  apply safe_secureDigest now
  intro actual found
  apply safe_require now
  intro same
  exact rest (found.trans (congrArg some same))

theorem safe_copyAtomic {effect : Effect} {content expected : Digest} {target : Place}
    {next : Unit → Action β} (now : Sound I disk)
    (rest : content = expected → Safe I (next ()) e (disk.put target content)) :
    Safe I (copyAtomic effect content expected target >>= next) e disk := by
  unfold copyAtomic
  rw [Program.bind_assoc]
  apply safe_require now
  intro same
  exact safe_perform_bind now (rest same)

theorem safe_advance {j : SelfUpdateJournal} {phase : SelfUpdatePhase}
    {next : SelfUpdateJournal → Action β} (now : Sound I disk)
    (rest : Safe I (next { j with phase := phase }) e (disk.record { j with phase := phase })) :
    Safe I (advance j phase >>= next) e disk := by
  unfold advance
  rw [Program.bind_assoc]
  exact safe_perform_bind now rest

theorem safe_advanceIf {c : Prop} [Decidable c] {j : SelfUpdateJournal} {phase : SelfUpdatePhase}
    {next : SelfUpdateJournal → Action β} (now : Sound I disk)
    (yes : c → Safe I (next { j with phase := phase }) e (disk.record { j with phase := phase }))
    (no : ¬c → Safe I (next j) e disk) : Safe I (advanceIf c j phase >>= next) e disk := by
  unfold advanceIf
  by_cases holds : c
  · rw [if_pos holds]
    exact safe_advance now (yes holds)
  · rw [if_neg holds]
    exact no holds

theorem safe_judged {accepted : Action Unit} {rejected : String → Action Unit}
    {answer : Except String Unit} (yes : Safe I accepted e disk)
    (no : ∀ detail, Safe I (rejected detail) e disk) :
    Safe I (judged accepted rejected answer) e disk := by
  cases answer with
  | ok _ => exact yes
  | error detail => exact no detail

theorem onlyIf_pos {c : Prop} [Decidable c] (p : Action Unit) (holds : c) : onlyIf c p = p :=
  if_pos holds

theorem onlyIf_neg {c : Prop} [Decidable c] (p : Action Unit) (fails : ¬c) :
    onlyIf c p = pure () :=
  if_neg fails

end rules

/-! ## Files -/

section files

variable {disk : Disk} {place q : Place} {content : Digest}

@[simp] theorem put_same : (disk.put place content).files place = some content := by
  simp [Disk.put]

theorem put_other (other : q ≠ place) : (disk.put place content).files q = disk.files q := by
  simp [Disk.put, other]

@[simp] theorem drop_same : (disk.drop place).files place = none := by
  simp [Disk.drop]

theorem drop_other (other : q ≠ place) : (disk.drop place).files q = disk.files q := by
  simp [Disk.drop, other]

end files

/-! ## One effect -/

section effects

variable {I : Promise} {disk : Disk} {j : SelfUpdateJournal}

theorem Tidy.put_rollback (h : Tidy disk) (d : Digest) : Tidy (disk.put (.rollback d) d) where
  rollbacks c x found := by
    by_cases same : c = d
    · subst same
      rw [put_same] at found
      cases found
      rfl
    · rw [put_other (by simp [same])] at found
      exact h.rollbacks c x found
  target := h.target

theorem Tidy.put_elsewhere (h : Tidy disk) {place : Place} (d : Digest)
    (elsewhere : ∀ c, place ≠ .rollback c) : Tidy (disk.put place d) where
  rollbacks c x found := by
    rw [put_other (elsewhere c).symm] at found
    exact h.rollbacks c x found
  target := h.target

theorem Tidy.drop_elsewhere (h : Tidy disk) {place : Place}
    (elsewhere : ∀ c, place ≠ .rollback c) : Tidy (disk.drop place) where
  rollbacks c x found := by
    rw [drop_other (elsewhere c).symm] at found
    exact h.rollbacks c x found
  target := h.target

theorem Promised.advance {trust : Option ControllerTrustState} (h : Promised I trust j)
    {phase : SelfUpdatePhase} (early : isUnstarted phase → isUnstarted j.phase) :
    Promised I trust { j with phase := phase } where
  settled := h.settled
  back := h.back
  unstarted fresh := h.unstarted (early fresh)

/-- One checkpoint more before anything is installed. -/
theorem UnderUpdate.check (h : UnderUpdate I disk j) (phase : SelfUpdatePhase)
    (fresh : isUnstarted phase) (early : isUnstarted j.phase) :
    UnderUpdate I (disk.record { j with phase := phase }) { j with phase := phase } where
  tidy := ⟨h.tidy.rollbacks, h.tidy.target⟩
  recorded := rfl
  held := { h.held with begun := fun late => by simp [fresh] at late }
  promised := h.promised.advance fun _ => early

theorem UnderUpdate.advance (h : UnderUpdate I disk j) (phase : SelfUpdatePhase)
    (late : isUnstarted phase = false)
    (installed : disk.files j.installPath = some j.toSha256) :
    UnderUpdate I (disk.record { j with phase := phase }) { j with phase := phase } where
  tidy := ⟨h.tidy.rollbacks, h.tidy.target⟩
  recorded := rfl
  held := { h.held with begun := fun _ => installed }
  promised := h.promised.advance fun fresh => by simp [late] at fresh

theorem UnderUpdate.prepare (h : UnderUpdate I disk j) :
    UnderUpdate I (disk.put (.rollback j.fromSha256) j.fromSha256) j where
  tidy := h.tidy.put_rollback _
  recorded := h.recorded
  promised := h.promised
  held := by
    obtain ⟨path, place⟩ := h.held.place
    have install : (disk.put (.rollback j.fromSha256) j.fromSha256).files j.installPath
        = disk.files j.installPath := put_other (by simp [place])
    refine { h.held with installed := ?_, candidates := ?_, prepared := ?_, begun := ?_ }
    · rw [install]
      exact h.held.installed
    · intro d x found
      rw [put_other (by simp)] at found
      exact h.held.candidates d x found
    · intro _
      exact put_same
    · rw [install]
      exact h.held.begun

theorem UnderUpdate.stage (h : UnderUpdate I disk j)
    (prepared : disk.files (.rollback j.fromSha256) = some j.fromSha256) :
    UnderUpdate I (disk.put (.candidate j.toSha256) j.toSha256) j where
  tidy := h.tidy.put_elsewhere _ (by simp)
  recorded := h.recorded
  promised := h.promised
  held := by
    obtain ⟨path, place⟩ := h.held.place
    have install : (disk.put (.candidate j.toSha256) j.toSha256).files j.installPath
        = disk.files j.installPath := put_other (by simp [place])
    refine { h.held with installed := ?_, candidates := ?_, prepared := ?_, begun := ?_ }
    · rw [install]
      exact h.held.installed
    · intro d x found
      by_cases same : d = j.toSha256
      · subst same
        rw [put_same] at found
        cases found
        exact ⟨rfl, rfl⟩
      · rw [put_other (by simp [same])] at found
        exact h.held.candidates d x found
    · intro _
      rw [put_other (by simp)]
      exact prepared
    · rw [install]
      exact h.held.begun

theorem UnderUpdate.install (h : UnderUpdate I disk j)
    (prepared : disk.files (.rollback j.fromSha256) = some j.fromSha256) :
    UnderUpdate I (disk.put j.installPath j.toSha256) j := by
  obtain ⟨path, place⟩ := h.held.place
  refine ⟨h.tidy.put_elsewhere _ (by simp [place]), h.recorded, ?_, h.promised⟩
  refine { h.held with installed := ?_, candidates := ?_, prepared := ?_, begun := ?_ }
  · exact .inr put_same
  · intro d x found
    rw [put_other (by simp [place])] at found
    exact h.held.candidates d x found
  · intro _
    rw [put_other (by simp [place])]
    exact prepared
  · intro _
    exact put_same

theorem UnderUpdate.unstage (h : UnderUpdate I disk j) :
    UnderUpdate I (disk.drop (.candidate j.toSha256)) j ∧
      ∀ d, (disk.drop (.candidate j.toSha256)).files (.candidate d) = none := by
  obtain ⟨path, place⟩ := h.held.place
  have install : (disk.drop (.candidate j.toSha256)).files j.installPath
      = disk.files j.installPath := drop_other (by simp [place])
  have gone : ∀ d, (disk.drop (.candidate j.toSha256)).files (.candidate d) = none := by
    intro d
    by_cases same : d = j.toSha256
    · rw [same, drop_same]
    · rw [drop_other (by simp [same])]
      rcases found : disk.files (.candidate d) with _ | x
      · rfl
      · exact absurd (h.held.candidates d x found).1 same
  refine ⟨⟨h.tidy.drop_elsewhere (by simp), h.recorded, ?_, h.promised⟩, gone⟩
  refine { h.held with installed := ?_, candidates := ?_, prepared := ?_, begun := ?_ }
  · rw [install]
    exact h.held.installed
  · intro d x found
    rw [gone d] at found
    cases found
  · rw [install, gone, drop_other (by simp)]
    intro needed
    exact h.held.prepared (.inr (needed.resolve_left (by simp)))
  · rw [install]
    exact h.held.begun

theorem UnderUpdate.unstaged (h : UnderUpdate I disk j)
    (missing : disk.files (.candidate j.toSha256) = none) (d : Digest) :
    disk.files (.candidate d) = none := by
  rcases found : disk.files (.candidate d) with _ | x
  · rfl
  · obtain ⟨same, _⟩ := h.held.candidates d x found
    rw [same, missing] at found
    cases found

theorem UnderUpdate.rollback_bound (h : UnderUpdate I disk j) :
    (disk.files j.rollbackArtifact).all (· == j.rollbackSha256) := by
  rw [h.held.artifact.1, h.held.artifact.2]
  rcases found : disk.files (.rollback j.fromSha256) with _ | x
  · rfl
  · simp [h.tidy.rollbacks _ x found]

theorem UnderUpdate.candidate_bound (h : UnderUpdate I disk j) :
    (stagedDigest disk j).all (· == j.toSha256) := by
  unfold stagedDigest
  rw [h.held.staged]
  rcases found : disk.files (.candidate j.toSha256) with _ | x
  · simp [found]
  · simp [found, (h.held.candidates _ x found).2]

theorem UnderUpdate.trusting (h : UnderUpdate I disk j) (late : isUnstarted j.phase = false)
    (trust : Option ControllerTrustState) : UnderUpdate I { disk with trust := trust } j where
  tidy := ⟨h.tidy.rollbacks, h.tidy.target⟩
  recorded := h.recorded
  held := h.held
  promised := ⟨h.promised.settled, h.promised.back, fun fresh => by simp [late] at fresh⟩

theorem UnderUpdate.keeping (h : UnderUpdate I disk j) (version : String) (sha256 : Digest)
    (d : Digest) :
    UnderUpdate I { disk with rollbackState := some ⟨version, sha256, .rollback d⟩ } j where
  tidy := ⟨h.tidy.rollbacks, fun state same => by
    cases same
    exact ⟨d, rfl⟩⟩
  recorded := h.recorded
  held := h.held
  promised := h.promised

theorem sound_retired (tidy : Tidy disk) (gone : ∀ d, disk.files (.candidate d) = none)
    (kept : I disk.files disk.trust) : Sound I disk.retire where
  tidy := ⟨tidy.rollbacks, tidy.target⟩
  idle _ := ⟨gone, kept⟩
  held j recorded := by cases recorded

theorem UnderUpdate.reverse (h : UnderUpdate I disk j)
    (prepared : disk.files j.rollbackArtifact = some j.fromSha256)
    (gone : ∀ d, disk.files (.candidate d) = none) :
    UnderRollback I (disk.record (reversed j)) (reversed j) where
  tidy := ⟨h.tidy.rollbacks, h.tidy.target⟩
  recorded := rfl
  held :=
    { operation := rfl
      place := h.held.place
      artifact := ⟨j.fromSha256, h.held.artifact.1⟩
      bound := ⟨prepared, h.held.artifact.2⟩
      staged := rfl
      installed := h.held.installed.symm
      candidates := gone
      phase := .inl rfl
      begun := fun late => absurd rfl late }
  settled := h.promised.back

theorem UnderRollback.advance (h : UnderRollback I disk j) {phase : SelfUpdatePhase}
    (known : phase = .installed ∨ phase = .trustCommitted)
    (installed : disk.files j.installPath = some j.toSha256) :
    UnderRollback I (disk.record { j with phase := phase }) { j with phase := phase } where
  tidy := ⟨h.tidy.rollbacks, h.tidy.target⟩
  recorded := rfl
  held := { h.held with phase := .inr known, begun := fun _ => installed }
  settled := h.settled

theorem UnderRollback.install (h : UnderRollback I disk j) :
    UnderRollback I (disk.put j.installPath j.toSha256) j := by
  obtain ⟨path, place⟩ := h.held.place
  obtain ⟨d, artifact⟩ := h.held.artifact
  refine ⟨h.tidy.put_elsewhere _ (by simp [place]), h.recorded, ?_, h.settled⟩
  refine { h.held with bound := ?_, installed := ?_, candidates := ?_, begun := ?_ }
  · rw [put_other (by simp [place, artifact])]
    exact h.held.bound
  · exact .inr put_same
  · intro c
    rw [put_other (by simp [place])]
    exact h.held.candidates c
  · intro _
    exact put_same

theorem UnderRollback.trusting (h : UnderRollback I disk j) (trust : Option ControllerTrustState) :
    UnderRollback I { disk with trust := trust } j :=
  ⟨⟨h.tidy.rollbacks, h.tidy.target⟩, h.recorded, h.held, h.settled⟩

end effects

/-! ## A process that may be lost at any effect -/

section safety

variable {I : Promise} {e : Circumstances} {disk : Disk} {j : SelfUpdateJournal}

theorem dropStaged_safe {next : Unit → Action Unit} (h : UnderUpdate I disk j)
    (rest : ∀ after, UnderUpdate I after j → (∀ d, after.files (.candidate d) = none) →
      after.files j.installPath = disk.files j.installPath → after.trust = disk.trust →
      Safe I (next ()) e after) : Safe I (dropStaged j >>= next) e disk := by
  unfold dropStaged
  rw [h.held.staged]
  unfold dropStagedAt
  simp only
  rw [Program.bind_assoc]
  apply safe_get
  by_cases there : disk.files (.candidate j.toSha256) ≠ none
  · rw [onlyIf_pos _ there, Program.bind_assoc]
    apply safe_require h.sound
    intro _
    obtain ⟨after, gone⟩ := h.unstage
    obtain ⟨path, place⟩ := h.held.place
    exact safe_perform_bind h.sound (rest _ after gone (drop_other (by simp [place])) rfl)
  · rw [onlyIf_neg _ there]
    exact rest disk h (h.unstaged (not_not.mp there)) rfl rfl

end safety

section safety

variable {I : Promise} {e : Circumstances} {disk : Disk} {j : SelfUpdateJournal}

theorem safe_then {α β : Type} {p : Action α} {next : α → Action β} (first : Safe I p e disk)
    (rest : ∀ a after, Sound I after → Safe I (next a) e after) : Safe I (p >>= next) e disk := by
  apply Ensures.bind first
  intro o after sound
  cases o with
  | ok a => exact rest a after sound
  | error _ => exact sound
  | crashed => exact sound

theorem finishUpdate_safe (h : UnderUpdate I disk j)
    (installed : disk.files j.installPath = some j.toSha256)
    (trusted : disk.trust = some ⟨j.toVersion, j.toSha256⟩) :
    Safe I (finishSelfUpdateJournal j) e disk := by
  unfold finishSelfUpdateJournal
  apply safe_require h.sound
  intro _
  apply dropStaged_safe h
  intro after h' gone install trust
  apply safe_perform h'.sound (sound_retired h'.tidy gone _)
  rw [trust, trusted]
  exact h.promised.settled _ (install.trans installed)

theorem finishRollback_safe (h : UnderRollback I disk j)
    (installed : disk.files j.installPath = some j.toSha256)
    (trusted : disk.trust = some ⟨j.toVersion, j.toSha256⟩) :
    Safe I (finishSelfUpdateJournal j) e disk := by
  unfold finishSelfUpdateJournal
  apply safe_require h.sound
  intro _
  unfold dropStaged
  rw [h.held.staged]
  apply safe_perform h.sound (sound_retired h.tidy h.held.candidates _)
  rw [trusted]
  exact h.settled _ installed

theorem discard_safe (h : UnderUpdate I disk j) :
    Safe I (discardUnstartedSelfUpdateJournal j) e disk := by
  unfold discardUnstartedSelfUpdateJournal
  apply safe_require h.sound
  intro early
  apply safe_ensureDigest h.sound
  intro preserved
  apply dropStaged_safe h
  intro after h' gone install trust
  apply safe_perform h'.sound (sound_retired h'.tidy gone _)
  rw [trust]
  exact h.promised.unstarted early _ (install.trans preserved)

theorem concludeRollback_safe (h : UnderRollback I disk j)
    (installed : disk.files j.installPath = some j.toSha256) :
    Safe I (concludeRollback j) e disk := by
  unfold concludeRollback
  have trusted := h.trusting (some ⟨j.toVersion, j.toSha256⟩)
  apply safe_perform_bind h.sound
  apply safe_advanceIf trusted.sound
  · intro _
    exact finishRollback_safe (trusted.advance (.inr rfl) installed) installed rfl
  · intro _
    exact finishRollback_safe trusted installed rfl

theorem reinstallRollback_safe (h : UnderRollback I disk j) :
    Safe I (reinstallRollback j >>= concludeRollback) e disk := by
  unfold reinstallRollback
  simp only [Program.bind_assoc]
  apply safe_secureDigest h.sound
  intro artifact _
  apply safe_copyAtomic h.sound
  intro same
  rw [same]
  have replaced := h.install
  apply safe_advance replaced.sound
  exact concludeRollback_safe (replaced.advance (.inl rfl) put_same) put_same

theorem recoverRollback_safe (h : UnderRollback I disk j) :
    Safe I (recoverRollbackJournal j) e disk := by
  unfold recoverRollbackJournal
  apply safe_get
  apply safe_require h.sound
  intro _
  apply safe_require h.sound
  intro _
  by_cases current : disk.files j.installPath ≠ some j.toSha256
  · rw [if_pos current]
    apply safe_require h.sound
    intro _
    exact reinstallRollback_safe h
  · rw [if_neg current]
    have installed := not_not.mp current
    by_cases phase : j.phase = .intent
    · rw [if_pos phase]
      apply safe_advance h.sound
      exact concludeRollback_safe (h.advance (.inl rfl) installed) installed
    · rw [if_neg phase]
      exact concludeRollback_safe h installed

theorem restore_safe (h : UnderUpdate I disk j) : Safe I (restoreRejectedUpdate j) e disk := by
  unfold restoreRejectedUpdate
  apply safe_ensureDigest h.sound
  intro prepared
  unfold dropRejected
  rw [h.held.staged]
  unfold dropRejectedAt
  simp only
  rw [Program.bind_assoc]
  apply safe_get
  by_cases there : disk.files (.candidate j.toSha256) ≠ none
  · rw [onlyIf_pos _ there, Program.bind_assoc]
    apply safe_ensureDigest h.sound
    intro _
    obtain ⟨after, gone⟩ := h.unstage
    apply safe_perform_bind h.sound
    have kept : (disk.drop (.candidate j.toSha256)).files j.rollbackArtifact
        = some j.fromSha256 := by
      rw [drop_other (by simp [h.held.artifact.1])]
      exact prepared
    exact safe_perform_bind after.sound (recoverRollback_safe (after.reverse kept gone))
  · rw [onlyIf_neg _ there]
    have gone := h.unstaged (not_not.mp there)
    exact safe_perform_bind h.sound (recoverRollback_safe (h.reverse prepared gone))

end safety

section safety

variable {I : Promise} {e : Circumstances} {disk : Disk} {j : SelfUpdateJournal}

theorem commitRollbackState_safe {next : Unit → Action Unit} (h : UnderUpdate I disk j)
    (rest : disk.files (.rollback j.fromSha256) = some j.fromSha256 →
      ∀ after, UnderUpdate I after j → after.files = disk.files → Safe I (next ()) e after) :
    Safe I (commitControllerRollbackState j.fromVersion j.fromSha256 j.rollbackArtifact >>= next)
      e disk := by
  unfold commitControllerRollbackState
  rw [Program.bind_assoc]
  apply safe_ensureDigest h.sound
  intro prepared
  rw [h.held.artifact.1] at prepared ⊢
  exact safe_perform_bind h.sound (rest prepared _ (h.keeping _ _ _) rfl)

theorem concludeTrust_safe (h : UnderUpdate I disk j) (late : isUnstarted j.phase = false)
    (installed : disk.files j.installPath = some j.toSha256) :
    Safe I (concludeTrust j) e disk := by
  have trusted := h.trusting late (some ⟨j.toVersion, j.toSha256⟩)
  apply safe_perform_bind h.sound
  apply safe_advanceIf trusted.sound
  · intro _
    exact finishUpdate_safe (trusted.advance _ rfl installed) installed rfl
  · intro _
    exact finishUpdate_safe trusted installed rfl

theorem concludeRollbackState_safe (h : UnderUpdate I disk j)
    (late : isUnstarted j.phase = false)
    (installed : disk.files j.installPath = some j.toSha256) :
    Safe I (concludeRollbackState j) e disk := by
  apply commitRollbackState_safe h
  intro _ after h' same
  rw [← same] at installed
  apply safe_advanceIf h'.sound
  · intro _
    exact concludeTrust_safe (h'.advance _ rfl installed) rfl installed
  · intro _
    exact concludeTrust_safe h' late installed

theorem concludeUpdate_safe (h : UnderUpdate I disk j)
    (installed : disk.files j.installPath = some j.toSha256) :
    Safe I (concludeUpdate j) e disk := by
  apply safe_advanceIf h.sound
  · intro _
    exact concludeRollbackState_safe (h.advance _ rfl installed) rfl installed
  · intro late
    exact concludeRollbackState_safe h (Bool.eq_false_iff.mpr late) installed

theorem settleInstalled_safe (h : UnderUpdate I disk j)
    (installed : disk.files j.installPath = some j.toSha256) :
    Safe I (settleInstalled j) e disk := by
  apply safe_environment
  apply safe_judged
  · exact concludeUpdate_safe h installed
  · intro detail
    exact safe_then (restore_safe h) fun _ after sound => safe_throw sound _

theorem installStaged_safe (h : UnderUpdate I disk j) (early : isUnstarted j.phase)
    (prepared : disk.files (.rollback j.fromSha256) = some j.fromSha256) :
    Safe I (installStaged j (.candidate j.toSha256)) e disk := by
  have verified := h.check .candidateVerified rfl early
  apply safe_advance h.sound
  apply safe_secureDigest verified.sound
  intro content _
  apply safe_copyAtomic verified.sound
  intro same
  rw [same]
  have replaced := verified.install prepared
  apply safe_advance replaced.sound
  exact settleInstalled_safe (replaced.advance _ rfl put_same) put_same

theorem recoverUpdate_safe (h : UnderUpdate I disk j) : Safe I (recoverUpdateJournal j) e disk := by
  unfold recoverUpdateJournal
  apply safe_get
  apply safe_require h.sound
  intro _
  apply safe_require h.sound
  intro _
  by_cases current : disk.files j.installPath = some j.toSha256
  · rw [if_pos current]
    exact settleInstalled_safe h current
  rw [if_neg current]
  have source := h.held.installed.resolve_right current
  have early : isUnstarted j.phase = true := by
    by_contra late
    exact current (h.held.begun (Bool.eq_false_iff.mpr late))
  have unstaged : Safe I (recoverUnstaged j (disk.files j.installPath)) e
      disk := by
    unfold recoverUnstaged
    by_cases early : disk.files j.installPath = some j.fromSha256
        ∧ (j.phase = .intent ∨ j.phase = .rollbackPrepared)
    · rw [if_pos early]
      exact discard_safe h
    · rw [if_neg early]
      exact safe_throw h.sound _
  apply safe_require h.sound
  intro _
  rw [h.held.staged]
  simp only
  by_cases there : disk.files (.candidate j.toSha256) = some j.toSha256
  · rw [if_pos there]
    have prepared := h.held.prepared (.inl (by simp [there]))
    apply safe_environment
    apply safe_get
    apply safe_judged
    · exact installStaged_safe h early prepared
    · intro detail
      rw [onlyIf_neg _ (by simp [source])]
      show Safe I (discardUnstartedSelfUpdateJournal j >>= fun _ => throw (.refused detail)) e disk
      exact safe_then (discard_safe h) fun _ after sound => safe_throw sound _
  · rw [if_neg there]
    exact unstaged

theorem recover_safe (sound : Sound I disk) : Safe I recoverControllerSelfOperation e disk := by
  unfold recoverControllerSelfOperation
  apply safe_get
  rcases recorded : disk.journal with _ | j
  · exact sound
  apply safe_environment
  apply safe_require sound
  intro _
  rcases sound.held j recorded with h | h
  · rw [h.held.operation]
    exact recoverUpdate_safe h
  · rw [h.held.operation]
    exact recoverRollback_safe h

theorem trustState_safe {next : Option ControllerTrustState → Action Unit} (sound : Sound I disk)
    (rest : Safe I (next disk.trust) e disk) :
    Safe I (controllerTrustState >>= next) e disk := by
  unfold controllerTrustState
  simp only [Program.bind_assoc]
  apply safe_environment
  apply safe_get
  rcases trusted : disk.trust with _ | state
  · rw [trusted] at rest
    exact rest
  · rw [trusted] at rest
    simp only [Program.bind_assoc]
    apply safe_ofExcept sound
    intro _ _
    exact rest

theorem enforceTrust_safe {version : String} {sha256 : Digest}
    {next : Option ControllerTrustState → Action Unit} (sound : Sound I disk)
    (rest : Safe I (next disk.trust) e disk) :
    Safe I (enforceControllerTrust version sha256 >>= next) e disk := by
  unfold enforceControllerTrust
  simp only [Program.bind_assoc]
  apply safe_environment
  apply trustState_safe sound
  rcases trusted : disk.trust with _ | state
  · rw [trusted] at rest
    simp only [Program.bind_assoc]
    apply safe_ofExcept sound
    intro order _
    apply safe_require sound
    intro _
    by_cases same : order = .eq
    · rw [onlyIf_pos _ same]
      simp only [Program.bind_assoc]
      apply safe_secureDigest sound
      intro current _
      apply safe_require sound
      intro _
      exact rest
    · rw [onlyIf_neg _ same]
      exact rest
  · rw [trusted] at rest
    simp only [Program.bind_assoc]
    apply safe_ofExcept sound
    intro order _
    apply safe_require sound
    intro _
    apply safe_require sound
    intro _
    exact rest

theorem commitUpdate_safe (h : UnderUpdate I disk j)
    (installed : disk.files j.installPath = some j.toSha256) :
    Safe I (commitUpdate j) e disk := by
  apply commitRollbackState_safe h
  intro _ after h' same
  rw [← same] at installed
  apply safe_advance h'.sound
  have kept := h'.advance .rollbackStateCommitted rfl installed
  apply safe_perform_bind kept.sound
  have trusted := kept.trusting rfl (some ⟨j.toVersion, j.toSha256⟩)
  apply safe_advance trusted.sound
  exact finishUpdate_safe (trusted.advance _ rfl installed) installed rfl

theorem installCandidate_safe (h : UnderUpdate I disk j) (early : isUnstarted j.phase)
    (prepared : disk.files (.rollback j.fromSha256) = some j.fromSha256) :
    Safe I (installCandidate j) e disk := by
  have verified := h.check .candidateVerified rfl early
  apply safe_environment
  apply safe_advance h.sound
  apply safe_secureDigest verified.sound
  intro content _
  apply safe_copyAtomic verified.sound
  intro same
  rw [same]
  have replaced := verified.install prepared
  apply safe_advance replaced.sound
  have done := replaced.advance .installed rfl put_same
  apply safe_judged
  · exact commitUpdate_safe done put_same
  · intro detail
    exact safe_then (restore_safe done) fun _ after sound => safe_throw sound _

/-- A new transaction starts from a state directory without one. -/
theorem updateIntent_under (sound : Sound I disk) (idle : disk.journal = none) {path : String}
    (exe : e.currentExe = .outside path) {current : Digest}
    (found : disk.files e.currentExe = some current) (trust : Option ControllerTrustState)
    (release : VerifiedControllerRelease)
    (promised : Promised I disk.trust (updateIntent e trust release current)) :
    UnderUpdate I (disk.record (updateIntent e trust release current))
      (updateIntent e trust release current) where
  tidy := ⟨sound.tidy.rollbacks, sound.tidy.target⟩
  recorded := rfl
  held :=
    { operation := rfl
      place := ⟨path, exe⟩
      artifact := ⟨rfl, rfl⟩
      staged := rfl
      installed := .inl found
      candidates := fun d x there => by
        have gone : disk.files (.candidate d) = none := (sound.idle idle).1 d
        exact absurd (gone.symm.trans there) (by simp)
      prepared := fun needed => by
        rcases needed with staged | moved
        · exact absurd ((sound.idle idle).1 _) staged
        · exact absurd found moved
      begun := fun late => by simp [updateIntent, isUnstarted] at late }
  promised := promised

theorem updateFrom_safe (sound : Sound I disk) (idle : disk.journal = none) {path : String}
    (exe : e.currentExe = .outside path) (trust : Option ControllerTrustState)
    (release : VerifiedControllerRelease)
    (promised : ∀ current, disk.files e.currentExe = some current →
      Promised I disk.trust (updateIntent e trust release current)) :
    Safe I (updateFrom trust release) e disk := by
  apply safe_environment
  apply safe_perform_bind sound
  apply safe_secureDigest sound
  intro current found
  have intent := updateIntent_under sound idle exe found trust release (promised current found)
  apply safe_perform_bind sound
  apply safe_copyAtomic intent.sound
  intro _
  have prepared := intent.prepare
  apply safe_advance prepared.sound
  have ready := prepared.check .rollbackPrepared rfl rfl
  apply safe_copyAtomic ready.sound
  intro _
  have staged := ready.stage put_same
  apply safe_advance staged.sound
  have checked := staged.check .candidatePrepared rfl rfl
  apply safe_judged
  · apply installCandidate_safe checked rfl
    apply checked.held.prepared
    left
    intro missing
    simp [Disk.record, Disk.put, updateIntent] at missing
  · intro detail
    exact safe_then (discard_safe checked) fun _ after sound => safe_throw sound _

theorem rollbackIntent_under (sound : Sound I disk) (idle : disk.journal = none) {path : String}
    (exe : e.currentExe = .outside path) {state : ControllerRollbackState}
    (target : ∃ d, state.artifact = .rollback d)
    (bound : disk.files state.artifact = some state.sha256) {current : Digest}
    (found : disk.files e.currentExe = some current) (trust : Option ControllerTrustState)
    (settled : ∀ files, files e.currentExe = some state.sha256 →
      I files (some ⟨state.version, state.sha256⟩)) :
    UnderRollback I (disk.record (rollbackIntent e trust state current))
      (rollbackIntent e trust state current) where
  tidy := ⟨sound.tidy.rollbacks, sound.tidy.target⟩
  recorded := rfl
  held :=
    { operation := rfl
      place := ⟨path, exe⟩
      artifact := target
      bound := ⟨bound, rfl⟩
      staged := rfl
      installed := .inl found
      candidates := (sound.idle idle).1
      phase := .inl rfl
      begun := fun late => absurd rfl late }
  settled := settled

theorem rollbackTo_safe (sound : Sound I disk) (idle : disk.journal = none) {path : String}
    (exe : e.currentExe = .outside path) {state : ControllerRollbackState}
    (target : ∃ d, state.artifact = .rollback d)
    (settled : ∀ files, files e.currentExe = some state.sha256 →
      I files (some ⟨state.version, state.sha256⟩)) :
    Safe I (rollbackTo state) e disk := by
  apply safe_environment
  apply safe_ensureDigest sound
  intro bound
  apply safe_secureDigest sound
  intro current found
  apply trustState_safe sound
  have intent := rollbackIntent_under sound idle exe target bound found disk.trust settled
  apply safe_perform_bind sound
  apply safe_secureDigest intent.sound
  intro content _
  apply safe_copyAtomic intent.sound
  intro same
  rw [same]
  have replaced := intent.install
  apply safe_advance replaced.sound
  have done := replaced.advance (.inl rfl) put_same
  apply safe_perform_bind done.sound
  have trusted := done.trusting (some ⟨state.version, state.sha256⟩)
  apply safe_advance trusted.sound
  exact finishRollback_safe (trusted.advance (.inr rfl) put_same) put_same rfl

/-! ## One process after another -/

/-- The records that a transaction of this process may leave in trust. -/
def Known (e : Circumstances) (disk : Disk) (t : ControllerTrustState) : Prop :=
  (∃ release, e.release = .ok (some release) ∧ t = ⟨release.version, release.sha256⟩) ∨
  (∃ state, disk.rollbackState = some state ∧ t = ⟨state.version, state.sha256⟩) ∨
  (disk.files e.currentExe = some t.sha256 ∧ t.version = fromVersion e disk.trust)

/-- Nothing was replaced, or the trust record names what is installed. -/
def Kept (e : Circumstances) (disk : Disk) : Promise := fun files trust =>
  (files e.currentExe = disk.files e.currentExe ∧ trust = disk.trust) ∨
  ∃ t, trust = some t ∧ files e.currentExe = some t.sha256 ∧ Known e disk t

theorem controllerUpdate_safe (sound : Sound I disk) (idle : disk.journal = none) {path : String}
    (exe : e.currentExe = .outside path)
    (kept : ∀ files trust, Kept e disk files trust → I files trust) :
    Safe I controllerUpdate e disk := by
  apply safe_environment
  apply safe_ofExcept sound
  intro offered known
  cases offered with
  | none => exact sound
  | some release =>
    have offer : e.release = .ok (some release) := by
      rcases refusal : e.release with x | o
      · rw [refusal] at known
        cases known
      · rw [refusal] at known
        cases known
        rfl
    apply enforceTrust_safe sound
    apply updateFrom_safe sound idle exe
    intro current found
    constructor
    · intro files installed
      exact kept _ _ (.inr ⟨_, rfl, installed, .inl ⟨release, offer, rfl⟩⟩)
    · intro files installed
      exact kept _ _ (.inr ⟨_, rfl, installed, .inr (.inr ⟨found, rfl⟩)⟩)
    · intro _ files installed
      exact kept _ _ (.inl ⟨installed.trans found.symm, rfl⟩)

theorem controllerRollback_safe (sound : Sound I disk) (idle : disk.journal = none)
    {path : String} (exe : e.currentExe = .outside path)
    (kept : ∀ files trust, Kept e disk files trust → I files trust) :
    Safe I controllerRollback e disk := by
  unfold controllerRollback
  apply safe_get
  rcases state : disk.rollbackState with _ | target
  · exact sound
  · apply rollbackTo_safe sound idle exe (sound.tidy.target target state)
    intro files installed
    exact kept _ _ (.inr ⟨_, rfl, installed, .inr (.inl ⟨target, state, rfl⟩)⟩)

theorem body_safe (command : Command) (sound : Sound I disk) (idle : disk.journal = none)
    {path : String} (exe : e.currentExe = .outside path)
    (kept : ∀ files trust, Kept e disk files trust → I files trust) :
    Safe I command.body e disk := by
  cases command with
  | check => exact sound
  | update => exact controllerUpdate_safe sound idle exe kept
  | rollback => exact controllerRollback_safe sound idle exe kept
  | repair => exact sound

/-- A program that succeeds only with the journal gone. -/
def Retires (p : Action Unit) (e : Circumstances) (disk : Disk) : Prop :=
  Ensures p e (fun o after => o = .ok () → after.journal = none) disk

theorem retires_bind {α : Type} {p : Action α} {next : α → Action Unit}
    (rest : ∀ a after, Retires (next a) e after) : Retires (p >>= next) e disk := by
  apply (ensures_bind _ _ _).mpr
  apply Ensures.of_forall
  intro o after
  cases o with
  | ok a => exact rest a after
  | error x => intro same; cases same
  | crashed => intro same; cases same

theorem removeJournal_retires : Retires removeJournal e disk := by
  apply (ensures_effect _ _ _ _).mpr
  refine ⟨fun _ _ => rfl, ?_, ?_⟩
  · intro _ _ same
    cases same
  · intro _ same
    cases same

theorem throw_retires (x : Failure) : Retires (throw x) e disk := by
  intro same
  cases same

theorem finish_retires : Retires (finishSelfUpdateJournal j) e disk :=
  retires_bind fun _ _ => retires_bind fun _ _ => removeJournal_retires

theorem discard_retires : Retires (discardUnstartedSelfUpdateJournal j) e disk :=
  retires_bind fun _ _ => retires_bind fun _ _ => retires_bind fun _ _ => removeJournal_retires

theorem concludeRollback_retires : Retires (concludeRollback j) e disk :=
  retires_bind fun _ _ => retires_bind fun _ _ => finish_retires

theorem recoverRollback_retires : Retires (recoverRollbackJournal j) e disk := by
  apply retires_bind
  intro seen _
  apply retires_bind
  intro _ _
  apply retires_bind
  intro _ _
  by_cases current : seen.files j.installPath ≠ some j.toSha256
  · rw [if_pos current]
    exact retires_bind fun _ _ => retires_bind fun _ _ => concludeRollback_retires
  · rw [if_neg current]
    by_cases phase : j.phase = .intent
    · rw [if_pos phase]
      exact retires_bind fun _ _ => concludeRollback_retires
    · rw [if_neg phase]
      exact concludeRollback_retires

theorem settleInstalled_retires : Retires (settleInstalled j) e disk := by
  apply retires_bind
  intro seen _
  rcases seen.verifyCandidateState j.installPath with detail | _
  · exact retires_bind fun _ _ => throw_retires _
  · exact retires_bind fun _ _ => retires_bind fun _ _ => retires_bind fun _ _ =>
      retires_bind fun _ _ => retires_bind fun _ _ => finish_retires

theorem recoverStaged_retires {staged : Place} : Retires (recoverStaged j staged) e disk := by
  apply retires_bind
  intro seen _
  apply retires_bind
  intro _ _
  rcases seen.verifyCandidateState staged with detail | _
  · exact retires_bind fun _ _ => retires_bind fun _ _ => throw_retires _
  · exact retires_bind fun _ _ => retires_bind fun _ _ => retires_bind fun _ _ =>
      retires_bind fun _ _ => settleInstalled_retires

theorem recoverUnstaged_retires {current : Option Digest} :
    Retires (recoverUnstaged j current) e disk := by
  unfold recoverUnstaged
  by_cases early : current = some j.fromSha256 ∧ (j.phase = .intent ∨ j.phase = .rollbackPrepared)
  · rw [if_pos early]
    exact discard_retires
  · rw [if_neg early]
    exact throw_retires _

theorem recoverUpdate_retires : Retires (recoverUpdateJournal j) e disk := by
  apply retires_bind
  intro seen _
  apply retires_bind
  intro _ _
  apply retires_bind
  intro _ _
  by_cases current : seen.files j.installPath = some j.toSha256
  · rw [if_pos current]
    exact settleInstalled_retires
  · rw [if_neg current]
    apply retires_bind
    intro _ _
    rcases j.stagedArtifact with _ | staged
    · exact recoverUnstaged_retires
    · simp only
      by_cases there : seen.files staged = some j.toSha256
      · rw [if_pos there]
        exact recoverStaged_retires
      · rw [if_neg there]
        exact recoverUnstaged_retires

theorem recoverRecorded_retires (recorded : Option SelfUpdateJournal)
    (same : disk.journal = recorded) : Retires (recoverRecorded recorded) e disk := by
  cases recorded with
  | none => exact fun _ => same
  | some j =>
    apply retires_bind
    intro _ _
    apply retires_bind
    intro _ _
    cases j.operation with
    | update => exact recoverUpdate_retires
    | rollback => exact recoverRollback_retires

theorem recover_retires : Retires recoverControllerSelfOperation e disk := by
  apply (ensures_bind _ _ _).mpr
  exact recoverRecorded_retires disk.journal rfl

end safety

section processes

variable {I : Promise} {disk : Disk}

theorem processRecover_sound (process : Process) (sound : Sound I disk) :
    Sound I (process.recover disk).2 :=
  safe_perform_bind sound (recover_safe sound)

theorem processRecover_idle (process : Process)
    (passed : (process.recover disk).1 = .ok ()) : (process.recover disk).2.journal = none :=
  retires_bind (fun _ _ => recover_retires) passed

/-- What holds at every moment of a process, wherever it is lost. -/
theorem processRun_sound (process : Process) {path : String}
    (exe : process.rest.currentExe = .outside path) (sound : Sound I disk)
    (kept : (process.recover disk).1 = .ok () → ∀ files trust,
      Kept process.rest (process.recover disk).2 files trust → I files trust) :
    Sound I (process.run disk) := by
  have recovered := processRecover_sound process sound
  unfold Process.run
  by_cases passed : (process.recover disk).1 = .ok ()
  · rw [if_pos passed]
    exact body_safe process.command recovered (processRecover_idle process passed) exe
      (kept passed)
  · rw [if_neg passed]
    exact recovered

end processes

end NazoAuthCtl.SelfUpdateRecovery
