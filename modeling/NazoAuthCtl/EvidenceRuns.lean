import Mathlib.Data.List.Nodup
import NazoAuthCtl.BackupEvidence

/-!
# Runs of the evidence of a backup

A run is any sequence of calls: the target lets an operation that is pending run again, also
after later ones have completed. What is shown is sound after every call that neither goes back
to an older snapshot nor is cut off between the latest manifest and the receipts of another one.
-/

set_option autoImplicit false
set_option linter.all false

namespace NazoAuthCtl.EvidenceRuns

open Checks StateDocument FaultProgram SnapshotManifests BackupEvidence
open SnapshotImport (OffHostCopyReceipt)

/-- The manifests of the snapshots, in the order of publication. -/
def held (s : EvidenceStore) : List (String × Option SnapshotManifest) :=
  s.snapshots.map fun entry => (entry.1, entry.2.manifest)

def ids (s : EvidenceStore) : List String := s.snapshots.map Prod.fst

/-- A snapshot that is not there has the position of the next one. -/
def position (s : EvidenceStore) (snapshotId : String) : ℕ := (ids s).idxOf snapshotId

/-- What the hash of a manifest binds: every field but its own, and so the snapshot. -/
structure Binding (platform : EvidencePlatform) : Prop where
  own (manifest : SnapshotManifest) (hash : String) :
    platform.computedSha256 { manifest with manifestSha256 := hash } =
      platform.computedSha256 manifest
  names (one other : SnapshotManifest) :
    platform.computedSha256 one = platform.computedSha256 other →
      one.snapshotId = other.snapshotId

section Definitions

variable (platform : EvidencePlatform) (deploymentId : String)
  (rehearsed : SnapshotManifest → Prop) (copied : OffHostCopyReceipt → Prop)

structure Owned (snapshotId : String) (manifest : SnapshotManifest) : Prop where
  snapshot : manifest.snapshotId = snapshotId
  deployment : manifest.deploymentId = deploymentId
  valid : manifest.validate platform.toBackupPlatform = .ok ()

def Tested (receipt : RestoreTestReceipt) : Prop :=
  ∃ manifest, rehearsed manifest ∧ receipt.snapshotId = manifest.snapshotId ∧
    receipt.manifestSha256 = manifest.manifestSha256

structure Sound (s : EvidenceStore) : Prop where
  distinct : (ids s).Nodup
  owned : ∀ entry ∈ held s, ∃ manifest, entry.2 = some manifest ∧
    Owned platform deploymentId entry.1 manifest
  latest : ∀ manifest, s.manifest = some manifest →
    (manifest.snapshotId, some manifest) ∈ held s
  absent : s.manifest = none → s.restoreReceipt = none ∧ s.offHostReceipt = none
  restored : ∀ receipt manifest, s.restoreReceipt = some receipt →
    s.manifest = some manifest → receipt.validateAgainst manifest = .ok ()
  verified : ∀ receipt manifest, s.offHostReceipt = some receipt →
    s.manifest = some manifest → validateOffHost receipt manifest = .ok ()
  tested : ∀ receipt, s.restoreReceipt = some receipt → Tested rehearsed receipt
  testedOwn : ∀ id receipt, (s.restoreTests id).receipt = some receipt →
    Tested rehearsed receipt
  pinned : ∀ id manifest, (s.restoreTests id).manifest = some manifest →
    (manifest.snapshotId, some manifest) ∈ held s
  copies : ∀ receipt, s.offHostReceipt = some receipt → copied receipt
  copiesOwn : ∀ entry ∈ s.snapshots, ∀ receipt, entry.2.offHostCopy = some receipt →
    copied receipt

/-- A store after calls that are no snapshots. -/
structure Steady (first s : EvidenceStore) : Prop where
  sound : Sound platform deploymentId rehearsed copied s
  same : held s = held first
  manifest : s.manifest = first.manifest
  restored : first.restoreReceipt.isSome = true → s.restoreReceipt.isSome = true
  verified : first.offHostReceipt.isSome = true → s.offHostReceipt.isSome = true

/-- The effects of a snapshot before its manifest becomes the latest one. -/
def reaching (published : Bool) : List EvidenceEffect :=
  if published then [.loadManifest, .verifySnapshot, .writeManifest]
  else [.ensureRoot, .removePartial, .createPartial, .createSnapshot, .writeImmutable, .publish,
    .syncParent, .writeManifest]

/-- The call of a snapshot makes its manifest the latest one. -/
structure Shows (e : Attempt) (s : EvidenceStore) (snapshotId : String) : Prop where
  valid : e.stateValid = .ok ()
  reached : ∀ label ∈ reaching (s.published snapshotId).isSome, e.faults label = .none
  makes : match s.published snapshotId with
    | some published => ∀ manifest, published.manifest = some manifest →
        verifySnapshotFiles platform.toBackupPlatform published.files manifest = .ok ()
    | none => e.isContainer = true ∧ ∃ manifest,
        createSnapshot platform deploymentId e.captured e.now snapshotId = .ok manifest

/-- Every receipt of the store is removed. -/
def Clears (e : Attempt) (s : EvidenceStore) : Prop :=
  (s.restoreReceipt = none ∨ e.faults .removeRestoreReceipt = .none) ∧
    (s.offHostReceipt = none ∨
      (e.faults .removeRestoreReceipt = .none ∧ e.faults .removeOffHostReceipt = .none))

/-- A call that takes the latest manifest to no older snapshot, and the receipts of another one
with it. -/
def Proper (e : Attempt) (s : EvidenceStore) : BackupCall → Prop
  | .snapshot operationId => ∀ snapshotId, platform.parseUuid operationId = .ok snapshotId →
      Shows platform deploymentId e s snapshotId → ∀ latest, s.manifest = some latest →
        position s latest.snapshotId ≤ position s snapshotId ∧
          (latest.snapshotId ≠ snapshotId → Clears e s)
  | _ => True

/-- The latest snapshot never goes back to an older one, and while it stays its receipts are
dropped by no other operation. -/
structure Advanced (call : BackupCall) (s s' : EvidenceStore) : Prop where
  published : ids s <+: ids s'
  latest : ∀ manifest, s.manifest = some manifest → ∃ later, s'.manifest = some later ∧
    position s' manifest.snapshotId ≤ position s' later.snapshotId
  receipts : ∀ manifest, s.manifest = some manifest → s'.manifest = some manifest →
    (∀ operationId, call = .snapshot operationId →
      platform.parseUuid operationId ≠ .ok manifest.snapshotId) →
    (s.restoreReceipt.isSome = true → s'.restoreReceipt.isSome = true) ∧
      (s.offHostReceipt.isSome = true → s'.offHostReceipt.isSome = true)

end Definitions

/-! ## Rules -/

section Rules

variable {e : Attempt} {s : EvidenceStore} {α β : Type} {Q : EvidenceStore → Prop}
  {label : EvidenceEffect} {refuse : String → Failure} {body : Evidencing α}
  {f : α → Evidencing β}

/-- An effect that does not take place leaves the store as it is. -/
theorem effect_bind (kept : e.faults label ≠ .none → Q s) (rest : e.faults label = .none →
      Program.Ensures body e (Program.After f e fun _ => Q) s) :
    Program.Ensures (Program.effect (fun attempt => attempt.faults label) refuse body >>= f) e
      (fun _ => Q) s := by
  rw [Program.ensures_bind, Program.ensures_effect]
  refine ⟨rest, fun detail failed => kept ?_, fun lost => kept ?_⟩
  · rw [failed]
    exact fun wrong => by cases wrong
  · rw [lost]
    exact fun wrong => by cases wrong

theorem ofExcept_bind {result : Except Failure α} (kept : Q s)
    (rest : ∀ a, result = .ok a → Program.Ensures (f a) e (fun _ => Q) s) :
    Program.Ensures (Program.ofExcept result >>= f) e (fun _ => Q) s := by
  rw [Program.ensures_bind, Program.ensures_ofExcept]
  exact ⟨rest, fun _ _ => kept⟩

theorem checked_bind {result : Except Failure α} (kept : Q s)
    (rest : e.faults label = .none → ∀ a, result = .ok a →
      Program.Ensures (f a) e (fun _ => Q) s) :
    Program.Ensures (Program.effect (fun attempt => attempt.faults label) refuse
      (Program.ofExcept result) >>= f) e (fun _ => Q) s := by
  refine effect_bind (fun _ => kept) fun none => ?_
  rw [Program.ensures_ofExcept]
  exact ⟨rest none, fun _ _ => kept⟩

end Rules

theorem loadManifest_ok {platform : EvidencePlatform} {stored loaded : Option SnapshotManifest}
    (ok : loadManifest platform stored = .ok loaded) : loaded = stored := by
  cases stored with
  | none =>
    cases ok
    rfl
  | some manifest =>
    cases valid : manifest.validate platform.toBackupPlatform with
    | ok u =>
      rw [loadManifest, valid] at ok
      cases ok
      rfl
    | error text =>
      rw [loadManifest, valid] at ok
      cases ok

section Steps

variable {platform : EvidencePlatform} {deploymentId : String}
  {rehearsed : SnapshotManifest → Prop} {copied : OffHostCopyReceipt → Prop} {e : Attempt}
  {s first : EvidenceStore} {manifest other : SnapshotManifest}

theorem mem_held {snapshotId : String} {published : Published}
    (found : s.published snapshotId = some published) :
    (snapshotId, published.manifest) ∈ held s := by
  obtain ⟨entry, first, rfl⟩ := Option.map_eq_some_iff.mp found
  have named : entry.1 = snapshotId := by simpa using List.find?_some first
  exact List.mem_map.mpr ⟨entry, List.mem_of_find?_eq_some first, by rw [named]⟩

theorem unpublished {snapshotId : String} (absent : s.published snapshotId = none) :
    snapshotId ∉ ids s := by
  intro member
  obtain ⟨entry, inside, named⟩ := List.mem_map.mp member
  have none := List.find?_eq_none.mp (Option.map_eq_none_iff.mp absent) entry inside
  exact none (decide_eq_true named)

theorem held_fst : (held s).map Prod.fst = ids s := by
  rw [held, List.map_map]
  rfl

theorem held_unique (sound : Sound platform deploymentId rehearsed copied s) {snapshotId : String}
    {one two : Option SnapshotManifest} (first : (snapshotId, one) ∈ held s)
    (second : (snapshotId, two) ∈ held s) : one = two := by
  have names : ((held s).map Prod.fst).Nodup := held_fst ▸ sound.distinct
  exact congrArg Prod.snd (List.inj_on_of_nodup_map names first second rfl)

theorem held_owned (sound : Sound platform deploymentId rehearsed copied s)
    (member : (manifest.snapshotId, some manifest) ∈ held s) :
    Owned platform deploymentId manifest.snapshotId manifest := by
  obtain ⟨own, same, owned⟩ := sound.owned _ member
  cases same
  exact owned

/-- Two manifests of one hash are one manifest. -/
theorem held_same (binding : Binding platform)
    (sound : Sound platform deploymentId rehearsed copied s)
    (one : (manifest.snapshotId, some manifest) ∈ held s)
    (two : (other.snapshotId, some other) ∈ held s)
    (hash : manifest.manifestSha256 = other.manifestSha256) : manifest = other := by
  have computed : ∀ {m : SnapshotManifest}, (m.snapshotId, some m) ∈ held s →
      m.manifestSha256 = platform.computedSha256 m := by
    intro m member
    obtain ⟨_, _, check⟩ := bind_ok.mp (held_owned sound member).valid
    exact check_ok.mp check
  have named := binding.names manifest other
    ((computed one).symm.trans (hash.trans (computed two)))
  rw [named] at one
  exact Option.some.inj (held_unique sound one two)

theorem Steady.refl (sound : Sound platform deploymentId rehearsed copied s) :
    Steady platform deploymentId rehearsed copied s s :=
  ⟨sound, rfl, rfl, id, id⟩

/-! ### Restore tests -/

/-- A receipt of the latest manifest becomes the latest receipt. -/
theorem Steady.shown {receipt : RestoreTestReceipt}
    (steady : Steady platform deploymentId rehearsed copied first s)
    (current : s.manifest = some manifest) (valid : receipt.validateAgainst manifest = .ok ())
    (tested : Tested rehearsed receipt) :
    Steady platform deploymentId rehearsed copied first
      { s with restoreReceipt := some receipt } where
  sound := { steady.sound with
    absent none := by
      rw [current] at none
      cases none
    restored shown later same held := by
      cases same
      rw [current] at held
      cases held
      exact valid
    tested shown same := by
      cases same
      exact tested }
  same := steady.same
  manifest := steady.manifest
  restored _ := rfl
  verified := steady.verified

/-- A document of a restore test changes nothing that is shown. -/
theorem Steady.kept {restoreTests : String → RestoreTest}
    (steady : Steady platform deploymentId rehearsed copied first s)
    (pinned : ∀ id manifest, (restoreTests id).manifest = some manifest →
      (manifest.snapshotId, some manifest) ∈ held s)
    (tested : ∀ id receipt, (restoreTests id).receipt = some receipt →
      Tested rehearsed receipt) :
    Steady platform deploymentId rehearsed copied first
      { s with restoreTests := restoreTests } where
  sound := { steady.sound with
    testedOwn := tested
    pinned := pinned }
  same := steady.same
  manifest := steady.manifest
  restored := steady.restored
  verified := steady.verified

theorem showReceipt_steady (binding : Binding platform) {receipt : RestoreTestReceipt}
    (member : (manifest.snapshotId, some manifest) ∈ held first)
    (valid : receipt.validateAgainst manifest = .ok ()) (tested : Tested rehearsed receipt) :
    Program.UpholdsIn e (Steady platform deploymentId rehearsed copied first)
      (showReceipt platform manifest receipt) (fun _ => True) := by
  unfold showReceipt
  refine Program.upholdsIn_bind Program.upholds_get.within fun seen steady => ?_
  refine Program.upholdsIn_bind (P := fun latest => latest = first.manifest)
    (Program.upholdsIn_effect fun _ => (Program.upholds_ofExcept fun latest loaded => ?_).within)
    fun latest same => ?_
  · exact (loadManifest_ok (mapError_ok.mp loaded)).trans steady.manifest
  · refine Program.upholdsIn_bind (Program.upholdsIn_onlyIf _ fun current =>
      Program.upholdsIn_effect fun _ => (Program.upholds_modify fun s steady => ?_).within)
      fun _ _ => (Program.upholds_pure trivial).within
    obtain ⟨shown, stored, hash⟩ := current
    have stored : s.manifest = some shown := steady.manifest.trans (same ▸ stored)
    have agree := held_same binding steady.sound (steady.sound.latest shown stored)
      (steady.same ▸ member) hash
    exact steady.shown (agree ▸ stored) valid tested

/-- An effect on things that the evidence does not hold. -/
theorem elsewhere {label : EvidenceEffect} {I : EvidenceStore → Prop} :
    Program.UpholdsIn e I (restoring label (pure ())) (fun _ => True) :=
  Program.upholdsIn_effect fun _ => (Program.upholds_pure trivial).within

theorem dropRemains_upholds {I : EvidenceStore → Prop} :
    Program.UpholdsIn e I (dropRemains : Evidencing Unit) (fun _ => True) :=
  Program.upholdsIn_bind elsewhere fun _ _ => Program.upholdsIn_bind elsewhere fun _ _ => elsewhere

theorem rehearse_steady (binding : Binding platform) {id : String} {resuming : Bool}
    (member : (manifest.snapshotId, some manifest) ∈ held first)
    (answers : ∀ manifest, e.rehearsal manifest = .ok () → rehearsed manifest) :
    Program.UpholdsIn e (Steady platform deploymentId rehearsed copied first)
      (rehearse platform deploymentId manifest id resuming) (fun _ => True) := by
  unfold rehearse
  refine Program.upholdsIn_bind Program.upholdsIn_environment fun e' same => ?_
  subst same
  refine Program.upholdsIn_bind (Program.upholdsIn_onlyIf _ fun _ => dropRemains_upholds)
    fun _ _ => Program.upholdsIn_bind elsewhere fun _ _ => ?_
  refine Program.upholdsIn_bind (P := fun _ => rehearsed manifest)
    (Program.upholdsIn_effect fun _ => (Program.upholds_ofExcept fun _ answered =>
      answers manifest (mapError_ok.mp answered)).within) fun _ restored => ?_
  refine Program.upholdsIn_bind elsewhere fun _ _ => Program.upholdsIn_bind elsewhere fun _ _ => ?_
  have tested : Tested rehearsed (rehearsalReceipt deploymentId manifest id e'.now) :=
    ⟨manifest, restored, rfl, rfl⟩
  refine Program.upholdsIn_bind (Program.upholds_ofExcept fun _ valid =>
    mapError_ok.mp valid).within fun _ valid => ?_
  refine Program.upholdsIn_bind (Program.upholdsIn_effect fun _ =>
    (Program.upholds_modify fun s steady => ?_).within) fun _ _ =>
      showReceipt_steady binding member valid tested
  refine steady.kept (fun other manifest pinned => ?_) fun other receipt found => ?_
  · split at pinned
    · exact steady.sound.pinned id manifest pinned
    · exact steady.sound.pinned other manifest pinned
  · split at found
    · cases found
      exact tested
    · exact steady.sound.testedOwn other receipt found

theorem chosenManifest_upholds {pinned : Option SnapshotManifest}
    (known : ∀ manifest ∈ pinned, (manifest.snapshotId, some manifest) ∈ held first) :
    Program.UpholdsIn e (Steady platform deploymentId rehearsed copied first)
      (chosenManifest platform pinned)
      (fun manifest => (manifest.snapshotId, some manifest) ∈ held first) := by
  unfold chosenManifest
  cases pinned with
  | some manifest =>
    exact (Program.upholds_pure (P := fun manifest : SnapshotManifest =>
      (manifest.snapshotId, some manifest) ∈ held first) (known manifest rfl)).within
  | none =>
    refine Program.upholdsIn_bind Program.upholds_get.within fun seen steady => ?_
    refine Program.upholdsIn_bind (P := fun latest => latest = seen.manifest)
      (Program.upholdsIn_effect fun _ => (Program.upholds_ofExcept fun latest loaded =>
        loadManifest_ok (mapError_ok.mp loaded)).within) fun latest same => ?_
    cases latest with
    | some manifest =>
      refine (Program.upholds_pure (P := fun manifest : SnapshotManifest =>
        (manifest.snapshotId, some manifest) ∈ held first) ?_).within
      exact steady.same ▸ steady.sound.latest manifest same.symm
    | none => exact (Program.upholds_throw _).within

/-- A restore test leaves the latest manifest, and what it shows is of that one. -/
theorem restoreTest_steady (binding : Binding platform) {operationId : String}
    (answers : ∀ manifest, e.rehearsal manifest = .ok () → rehearsed manifest) :
    Program.UpholdsIn e (Steady platform deploymentId rehearsed copied first)
      (restoreTest platform deploymentId operationId) (fun _ => True) := by
  unfold restoreTest
  refine Program.upholdsIn_bind Program.upholdsIn_environment fun e' same => ?_
  subst same
  refine Program.upholdsIn_bind (Program.upholds_require _ _).within fun _ _ => ?_
  refine Program.upholdsIn_bind (P := fun _ => True)
    (Program.upholds_ofExcept fun _ _ => trivial).within fun id _ => ?_
  refine Program.upholdsIn_bind Program.upholds_get.within fun seen steady => ?_
  refine Program.upholdsIn_bind (P := fun pinned => pinned = (seen.restoreTests id).manifest)
    (Program.upholdsIn_effect fun _ => (Program.upholds_ofExcept fun latest loaded =>
      loadManifest_ok (mapError_ok.mp loaded)).within) fun pinned same => ?_
  refine Program.upholdsIn_bind (chosenManifest_upholds fun manifest found =>
    steady.same ▸ steady.sound.pinned id manifest (same ▸ found)) fun manifest member => ?_
  refine Program.upholdsIn_bind (Program.upholds_require _ _).within fun _ _ => ?_
  refine Program.upholdsIn_bind (P := fun _ => True)
    (Program.upholds_ofExcept fun _ _ => trivial).within fun _ _ => ?_
  refine Program.upholdsIn_bind Program.upholds_get.within fun _ _ => ?_
  refine Program.upholdsIn_bind (P := fun _ => True) (Program.upholdsIn_effect fun _ =>
    (Program.upholds_ofExcept fun _ _ => trivial).within) fun _ _ => ?_
  refine Program.upholdsIn_bind (Program.upholdsIn_effect fun _ =>
    (Program.upholds_modify fun s steady => ?_).within) fun _ _ => ?_
  · refine steady.kept (fun other pinned found => ?_) fun other receipt found => ?_
    · split at found
      · cases found
        exact steady.same ▸ member
      · exact steady.sound.pinned other pinned found
    · split at found
      · exact steady.sound.testedOwn id receipt found
      · exact steady.sound.testedOwn other receipt found
  · refine Program.upholdsIn_bind elsewhere fun _ _ => ?_
    refine Program.upholdsIn_bind Program.upholds_get.within fun later steady => ?_
    cases found : (later.restoreTests id).receipt with
    | none => exact rehearse_steady binding member answers
    | some receipt =>
      refine Program.upholdsIn_bind (Program.upholds_ofExcept fun _ valid =>
        mapError_ok.mp valid).within fun _ valid => ?_
      exact showReceipt_steady binding member valid (steady.sound.testedOwn id receipt found)

/-! ### Copies on another host -/

theorem ids_withCopy {snapshotId : String} {receipt : OffHostCopyReceipt} :
    ids { s with snapshots := withCopy snapshotId receipt s.snapshots } = ids s := by
  rw [ids, ids, withCopy, List.map_map]
  refine List.map_congr_left fun entry _ => ?_
  show (if entry.1 = snapshotId then _ else entry).1 = entry.1
  split
  · rfl
  · rfl

theorem held_withCopy {snapshotId : String} {receipt : OffHostCopyReceipt} :
    held { s with snapshots := withCopy snapshotId receipt s.snapshots } = held s := by
  rw [held, held, withCopy, List.map_map]
  refine List.map_congr_left fun entry _ => ?_
  show ((if entry.1 = snapshotId then _ else entry).1,
    (if entry.1 = snapshotId then _ else entry).2.manifest) = (entry.1, entry.2.manifest)
  split
  · rfl
  · rfl

theorem Steady.copyKept {snapshotId : String} {receipt : OffHostCopyReceipt}
    (steady : Steady platform deploymentId rehearsed copied first s) (known : copied receipt) :
    Steady platform deploymentId rehearsed copied first
      { s with snapshots := withCopy snapshotId receipt s.snapshots } where
  sound := { steady.sound with
    distinct := by
      rw [ids_withCopy]
      exact steady.sound.distinct
    owned := by
      rw [held_withCopy]
      exact steady.sound.owned
    latest := by
      rw [held_withCopy]
      exact steady.sound.latest
    pinned := by
      rw [held_withCopy]
      exact steady.sound.pinned
    copiesOwn := by
      intro entry member other found
      obtain ⟨old, inside, rfl⟩ := List.mem_map.mp member
      split at found
      · cases found
        exact known
      · exact steady.sound.copiesOwn old inside other found }
  same := held_withCopy.trans steady.same
  manifest := steady.manifest
  restored := steady.restored
  verified := steady.verified

theorem Steady.copyShown {receipt : OffHostCopyReceipt}
    (steady : Steady platform deploymentId rehearsed copied first s)
    (current : s.manifest = some manifest) (valid : validateOffHost receipt manifest = .ok ())
    (known : copied receipt) :
    Steady platform deploymentId rehearsed copied first
      { s with offHostReceipt := some receipt } where
  sound := { steady.sound with
    absent none := by
      rw [current] at none
      cases none
    verified shown later same held := by
      cases same
      rw [current] at held
      cases held
      exact valid
    copies shown same := by
      cases same
      exact known }
  same := steady.same
  manifest := steady.manifest
  restored := steady.restored
  verified _ := rfl

theorem recordOffHostCopy_steady (binding : Binding platform) {receipt : OffHostCopyReceipt}
    (known : copied receipt) :
    Program.UpholdsIn e (Steady platform deploymentId rehearsed copied first)
      (recordOffHostCopy platform receipt) (fun _ => True) := by
  unfold recordOffHostCopy
  refine Program.upholdsIn_bind (P := fun _ => True)
    (Program.upholds_ofExcept fun _ _ => trivial).within fun snapshotId _ => ?_
  refine Program.upholdsIn_bind Program.upholds_get.within fun seen steady => ?_
  refine Program.upholdsIn_bind
    (P := fun loaded => loaded = (seen.published snapshotId).bind (·.manifest))
    (Program.upholdsIn_effect fun _ => (Program.upholds_ofExcept fun latest loaded =>
      loadManifest_ok (mapError_ok.mp loaded)).within) fun loaded same => ?_
  cases loaded with
  | none => exact (Program.upholds_throw _).within
  | some manifest =>
    have member : (manifest.snapshotId, some manifest) ∈ held first := by
      obtain ⟨published, found, own⟩ := Option.bind_eq_some_iff.mp same.symm
      have inside := mem_held found
      rw [own] at inside
      obtain ⟨named, known, owned⟩ := steady.sound.owned _ inside
      cases known
      rw [owned.snapshot, ← steady.same]
      exact inside
    refine Program.upholdsIn_bind (Program.upholds_ofExcept fun _ valid =>
      mapError_ok.mp valid).within fun _ valid => ?_
    refine Program.upholdsIn_bind (Program.upholdsIn_effect fun _ =>
      (Program.upholds_modify fun s steady => steady.copyKept known).within) fun _ _ => ?_
    refine Program.upholdsIn_bind Program.upholds_get.within fun seen steady => ?_
    refine Program.upholdsIn_bind (P := fun latest => latest = seen.manifest)
      (Program.upholdsIn_effect fun _ => (Program.upholds_ofExcept fun latest loaded =>
        loadManifest_ok (mapError_ok.mp loaded)).within) fun latest same => ?_
    refine Program.upholdsIn_onlyIf _ fun current => Program.upholdsIn_effect fun _ =>
      (Program.upholds_modify fun s now => ?_).within
    obtain ⟨shown, stored, _, hash⟩ := current
    have stored : s.manifest = some shown :=
      now.manifest.trans (steady.manifest.symm.trans (same ▸ stored))
    have agree := held_same binding now.sound (now.sound.latest shown stored)
      (now.same ▸ member) hash
    exact now.copyShown (agree ▸ stored) valid known

/-! ### Snapshots -/

/-- Snapshots that are added later move no earlier one. -/
theorem position_of_mem (within : ids first <+: ids s) {snapshotId : String}
    (member : snapshotId ∈ ids first) : position s snapshotId = position first snapshotId := by
  obtain ⟨more, split⟩ := within
  rw [position, position, ← split, List.idxOf_append_of_mem member]

theorem position_le (within : ids first <+: ids s) (snapshotId : String) :
    position first snapshotId ≤ position s snapshotId := by
  by_cases member : snapshotId ∈ ids first
  · exact Nat.le_of_eq (position_of_mem within member).symm
  · obtain ⟨more, split⟩ := within
    rw [position, position, ← split, List.idxOf_append_of_notMem member,
      List.idxOf_of_notMem member]
    exact Nat.le_add_right _ _

theorem mem_ids {snapshotId : String} {stored : Option SnapshotManifest}
    (member : (snapshotId, stored) ∈ held s) : snapshotId ∈ ids s := by
  rw [← held_fst]
  exact List.mem_map_of_mem member

/-- A store that a call has left. -/
structure Proceeds (platform : EvidencePlatform) (deploymentId : String)
    (rehearsed : SnapshotManifest → Prop) (copied : OffHostCopyReceipt → Prop)
    (call : BackupCall) (first s : EvidenceStore) : Prop where
  sound : Sound platform deploymentId rehearsed copied s
  advanced : Advanced platform call first s

/-- A call that is no snapshot. -/
theorem Steady.proceeds (steady : Steady platform deploymentId rehearsed copied first s)
    (call : BackupCall) : Proceeds platform deploymentId rehearsed copied call first s where
  sound := steady.sound
  advanced := by
    have same : ids s = ids first := by rw [← held_fst, ← held_fst, steady.same]
    refine ⟨same ▸ List.prefix_rfl, fun manifest current => ?_, fun _ _ _ _ => ?_⟩
    · exact ⟨manifest, steady.manifest.trans current, Nat.le_refl _⟩
    · exact ⟨steady.restored, steady.verified⟩

/-- A snapshot before its manifest becomes the latest one: no more than a directory is added. -/
structure Staged (platform : EvidencePlatform) (deploymentId : String)
    (rehearsed : SnapshotManifest → Prop) (copied : OffHostCopyReceipt → Prop)
    (first s : EvidenceStore) : Prop where
  sound : Sound platform deploymentId rehearsed copied s
  published : ids first <+: ids s
  manifest : s.manifest = first.manifest
  restored : s.restoreReceipt = first.restoreReceipt
  verified : s.offHostReceipt = first.offHostReceipt

theorem Staged.proceeds (staged : Staged platform deploymentId rehearsed copied first s)
    (call : BackupCall) : Proceeds platform deploymentId rehearsed copied call first s where
  sound := staged.sound
  advanced := by
    refine ⟨staged.published, fun manifest current => ?_, fun _ _ _ _ => ?_⟩
    · exact ⟨manifest, staged.manifest.trans current, Nat.le_refl _⟩
    · rw [staged.restored, staged.verified]
      exact ⟨id, id⟩

/-- The manifest of a snapshot is the latest one, with those of the receipts that bind it. -/
theorem Staged.shown {operationId : String}
    {restoreReceipt : Option RestoreTestReceipt} {offHostReceipt : Option OffHostCopyReceipt}
    (staged : Staged platform deploymentId rehearsed copied first s)
    (start : Sound platform deploymentId rehearsed copied first)
    (member : (manifest.snapshotId, some manifest) ∈ held s)
    (named : platform.parseUuid operationId = .ok manifest.snapshotId)
    (forward : ∀ latest, first.manifest = some latest →
      position first latest.snapshotId ≤ position first manifest.snapshotId)
    (restored : ∀ receipt, restoreReceipt = some receipt →
      s.restoreReceipt = some receipt ∧ receipt.validateAgainst manifest = .ok ())
    (verified : ∀ receipt, offHostReceipt = some receipt →
      s.offHostReceipt = some receipt ∧ validateOffHost receipt manifest = .ok ()) :
    Proceeds platform deploymentId rehearsed copied (.snapshot operationId) first
      { s with
        manifest := some manifest
        restoreReceipt := restoreReceipt
        offHostReceipt := offHostReceipt } where
  sound := { staged.sound with
    latest later same := by
      cases same
      exact member
    absent none := by cases none
    restored receipt later found same := by
      cases same
      exact (restored receipt found).2
    verified receipt later found same := by
      cases same
      exact (verified receipt found).2
    tested receipt found := staged.sound.tested receipt (restored receipt found).1
    copies receipt found := staged.sound.copies receipt (verified receipt found).1 }
  advanced := by
    refine ⟨staged.published, fun latest current => ⟨manifest, rfl, ?_⟩, ?_⟩
    · have earlier := mem_ids (start.latest latest current)
      calc position s latest.snapshotId
          = position first latest.snapshotId := position_of_mem staged.published earlier
        _ ≤ position first manifest.snapshotId := forward latest current
        _ ≤ position s manifest.snapshotId := position_le staged.published _
    · intro latest _ same other
      cases same
      exact absurd named (other operationId rfl)

/-- The latest receipts bind a manifest unless they are those of another snapshot. -/
theorem Staged.binds (staged : Staged platform deploymentId rehearsed copied first s)
    (member : (manifest.snapshotId, some manifest) ∈ held s)
    (current : ∀ latest, s.manifest = some latest →
      latest.snapshotId = manifest.snapshotId) :
    (∀ receipt, s.restoreReceipt = some receipt →
      receipt.validateAgainst manifest = .ok ()) ∧
    (∀ receipt, s.offHostReceipt = some receipt →
      validateOffHost receipt manifest = .ok ()) := by
  cases latest : s.manifest with
  | none =>
    obtain ⟨restored, verified⟩ := staged.sound.absent latest
    rw [restored, verified]
    constructor
    · intro receipt found
      cases found
    · intro receipt found
      cases found
  | some shown =>
    have inside := staged.sound.latest shown latest
    rw [current shown latest] at inside
    cases held_unique staged.sound inside member
    exact ⟨fun receipt found => staged.sound.restored receipt _ found latest,
      fun receipt found => staged.sound.verified receipt _ found latest⟩

theorem showSnapshot_proceeds {operationId : String}
    (staged : Staged platform deploymentId rehearsed copied first s)
    (start : Sound platform deploymentId rehearsed copied first)
    (member : (manifest.snapshotId, some manifest) ∈ held s)
    (named : platform.parseUuid operationId = .ok manifest.snapshotId)
    (proper : e.faults .writeManifest = .none → ∀ latest, first.manifest = some latest →
      position first latest.snapshotId ≤ position first manifest.snapshotId ∧
        (latest.snapshotId ≠ manifest.snapshotId → Clears e first)) :
    Program.Ensures (showSnapshot manifest) e (fun _ =>
      Proceeds platform deploymentId rehearsed copied (.snapshot operationId) first) s := by
  unfold showSnapshot
  refine effect_bind (fun _ => staged.proceeds _) fun written => ?_
  have proper := proper written
  have forward := fun latest current => (proper latest current).1
  have binds : (∀ receipt, s.restoreReceipt = some receipt →
        receipt.validateAgainst manifest = .ok () ∨ e.faults .removeRestoreReceipt = .none) ∧
      (∀ receipt, s.offHostReceipt = some receipt →
        validateOffHost receipt manifest = .ok () ∨
          (e.faults .removeRestoreReceipt = .none ∧ e.faults .removeOffHostReceipt = .none)) := by
    by_cases other : ∃ latest, first.manifest = some latest ∧
        latest.snapshotId ≠ manifest.snapshotId
    · obtain ⟨latest, current, differs⟩ := other
      obtain ⟨restored, verified⟩ := (proper latest current).2 differs
      rw [← staged.restored] at restored
      rw [← staged.verified] at verified
      refine ⟨fun receipt found => ?_, fun receipt found => ?_⟩
      · rcases restored with none | removed
        · cases none.symm.trans found
        · exact .inr removed
      · rcases verified with none | removed
        · cases none.symm.trans found
        · exact .inr removed
    · have bound := staged.binds member fun latest current => by
        by_contra differs
        exact other ⟨latest, staged.manifest ▸ current, differs⟩
      exact ⟨fun receipt found => .inl (bound.1 receipt found),
        fun receipt found => .inl (bound.2 receipt found)⟩
  rw [Program.ensures_modify, Program.after_ok, removeReceiptIfPresent, Program.bind_assoc]
  refine effect_bind (fun fault => ?_) fun removed => ?_
  · exact staged.shown start member named forward
      (fun receipt found => ⟨found, (binds.1 receipt found).resolve_right fault⟩)
      (fun receipt found => ⟨found,
        (binds.2 receipt found).resolve_right fun both => fault both.1⟩)
  rw [Program.ensures_modify, Program.after_ok]
  refine effect_bind (fun fault => ?_) fun dropped => ?_
  · exact staged.shown start member named forward (fun receipt found => by cases found)
      (fun receipt found => ⟨found,
        (binds.2 receipt found).resolve_right fun both => fault both.2⟩)
  · exact staged.shown start member named forward (fun receipt found => by cases found)
      (fun receipt found => by cases found)

theorem createSnapshot_owned (binding : Binding platform) {captured : Captured}
    {now : Timestamp} {snapshotId : String}
    (made : createSnapshot platform deploymentId captured now snapshotId = .ok manifest) :
    Owned platform deploymentId snapshotId manifest := by
  unfold createSnapshot at made
  split at made
  · cases made
  · obtain ⟨dump, _, made⟩ := bind_ok.mp made
    obtain ⟨archive, _, made⟩ := bind_ok.mp made
    obtain ⟨_, contents, made⟩ := bind_ok.mp made
    cases made
    exact ⟨rfl, rfl, bind_ok.mpr ⟨(), contents, check_ok.mpr (binding.own _ _).symm⟩⟩

/-- A snapshot directory is published after all others. -/
theorem Staged.publish (staged : Staged platform deploymentId rehearsed copied first s)
    {files : Directory} (owned : Owned platform deploymentId manifest.snapshotId manifest)
    (fresh : manifest.snapshotId ∉ ids s) :
    Staged platform deploymentId rehearsed copied first
      { s with snapshots := s.snapshots ++
        [(manifest.snapshotId, ⟨files, some manifest, none⟩)] } := by
  have grown : held { s with snapshots := s.snapshots ++
      [(manifest.snapshotId, ⟨files, some manifest, none⟩)] } =
      held s ++ [(manifest.snapshotId, some manifest)] := by
    rw [held, List.map_append]
    rfl
  have names : ids { s with snapshots := s.snapshots ++
      [(manifest.snapshotId, ⟨files, some manifest, none⟩)] } =
      ids s ++ [manifest.snapshotId] := by
    rw [ids, List.map_append]
    rfl
  refine ⟨{ staged.sound with
    distinct := ?_, owned := ?_, latest := ?_, pinned := ?_, copiesOwn := ?_ }, ?_,
    staged.manifest, staged.restored, staged.verified⟩
  · rw [names]
    exact List.nodup_append'.mpr ⟨staged.sound.distinct, List.nodup_singleton _,
      fun name old new => fresh (List.mem_singleton.mp new ▸ old)⟩
  · rw [grown]
    intro entry member
    rcases List.mem_append.mp member with old | new
    · exact staged.sound.owned entry old
    · cases List.mem_singleton.mp new
      exact ⟨manifest, rfl, owned⟩
  · rw [grown]
    exact fun latest current => List.mem_append_left _ (staged.sound.latest latest current)
  · rw [grown]
    exact fun id pinned found => List.mem_append_left _ (staged.sound.pinned id pinned found)
  · intro entry member receipt found
    rcases List.mem_append.mp member with old | new
    · exact staged.sound.copiesOwn entry old receipt found
    · cases List.mem_singleton.mp new
      cases found
  · rw [names]
    exact staged.published.trans (List.prefix_append _ _)

theorem completedSnapshot_proceeds {operationId snapshotId : String} {published : Published}
    (start : Sound platform deploymentId rehearsed copied s)
    (named : platform.parseUuid operationId = .ok snapshotId)
    (found : s.published snapshotId = some published) (valid : e.stateValid = .ok ())
    (proper : Proper platform deploymentId e s (.snapshot operationId)) :
    Program.Ensures (completedSnapshot platform deploymentId snapshotId published) e
      (fun _ => Proceeds platform deploymentId rehearsed copied (.snapshot operationId) s) s := by
  have staged : Staged platform deploymentId rehearsed copied s s :=
    ⟨start, List.prefix_rfl, rfl, rfl, rfl⟩
  unfold completedSnapshot
  refine checked_bind (staged.proceeds _) fun read existing loaded => ?_
  have stored := loadManifest_ok (mapError_ok.mp loaded)
  cases existing with
  | none => exact staged.proceeds _
  | some existing =>
    rw [Program.ensures_bind, Program.ensures_require]
    refine ⟨fun bound => ?_, fun _ => staged.proceeds _⟩
    rw [Program.after_ok]
    refine checked_bind (staged.proceeds _) fun checked _ verified => ?_
    obtain ⟨rfl, _⟩ := bound
    refine showSnapshot_proceeds staged start (stored ▸ mem_held found) named fun written => ?_
    refine proper _ named ⟨valid, ?_, ?_⟩
    · rw [found]
      intro label member
      simp only [reaching, Option.isSome_some, if_true, List.mem_cons, List.not_mem_nil,
        or_false] at member
      rcases member with rfl | rfl | rfl
      · exact read
      · exact checked
      · exact written
    · rw [found]
      intro other own
      cases stored.trans own
      exact mapError_ok.mp verified

theorem newSnapshot_proceeds (binding : Binding platform) {operationId snapshotId : String}
    (start : Sound platform deploymentId rehearsed copied s)
    (named : platform.parseUuid operationId = .ok snapshotId)
    (absent : s.published snapshotId = none) (valid : e.stateValid = .ok ())
    (proper : Proper platform deploymentId e s (.snapshot operationId)) :
    Program.Ensures (newSnapshot platform deploymentId snapshotId) e
      (fun _ => Proceeds platform deploymentId rehearsed copied (.snapshot operationId) s) s := by
  have staged : Staged platform deploymentId rehearsed copied s s :=
    ⟨start, List.prefix_rfl, rfl, rfl, rfl⟩
  unfold newSnapshot
  rw [Program.ensures_bind, Program.ensures_environment, Program.after_ok, Program.ensures_bind,
    Program.ensures_require]
  refine ⟨fun container => ?_, fun _ => staged.proceeds _⟩
  rw [Program.after_ok]
  refine effect_bind (fun _ => staged.proceeds _) fun rooted => ?_
  refine effect_bind (fun _ => staged.proceeds _) fun removed => ?_
  refine effect_bind (fun _ => staged.proceeds _) fun created => ?_
  refine checked_bind (staged.proceeds _) fun captured manifest made => ?_
  have owned := createSnapshot_owned binding (mapError_ok.mp made)
  obtain rfl := owned.snapshot
  have published : Staged platform deploymentId rehearsed copied s
      { s with snapshots := s.snapshots ++
        [(manifest.snapshotId, ⟨stagedFiles e.captured, some manifest, none⟩)] } :=
    staged.publish owned (unpublished absent)
  refine effect_bind (fun _ => staged.proceeds _) fun kept => ?_
  refine effect_bind (fun _ => staged.proceeds _) fun renamed => ?_
  rw [Program.ensures_modify, Program.after_ok]
  refine effect_bind (fun _ => published.proceeds _) fun synced => ?_
  have member : (manifest.snapshotId, some manifest) ∈ held { s with snapshots := s.snapshots ++
      [(manifest.snapshotId, ⟨stagedFiles e.captured, some manifest, none⟩)] } :=
    List.mem_map.mpr ⟨_, List.mem_append_right _ (List.mem_singleton_self _), rfl⟩
  refine showSnapshot_proceeds published start member named fun written => ?_
  refine proper _ named ⟨valid, ?_, ?_⟩
  · rw [absent]
    intro label member
    simp only [reaching, Option.isSome_none, Bool.false_eq_true, if_false, List.mem_cons,
      List.not_mem_nil, or_false] at member
    rcases member with rfl | rfl | rfl | rfl | rfl | rfl | rfl | rfl
    · exact rooted
    · exact removed
    · exact created
    · exact captured
    · exact kept
    · exact renamed
    · exact synced
    · exact written
  · rw [absent]
    exact ⟨container, manifest, mapError_ok.mp made⟩

theorem snapshot_proceeds (binding : Binding platform) {operationId : String}
    (start : Sound platform deploymentId rehearsed copied s)
    (proper : Proper platform deploymentId e s (.snapshot operationId)) :
    Program.Ensures (snapshot platform deploymentId operationId) e
      (fun _ => Proceeds platform deploymentId rehearsed copied (.snapshot operationId) s) s := by
  have staged : Staged platform deploymentId rehearsed copied s s :=
    ⟨start, List.prefix_rfl, rfl, rfl, rfl⟩
  unfold snapshot
  cases named : platform.parseUuid operationId with
  | error text => exact staged.proceeds _
  | ok snapshotId =>
    rw [Program.ensures_bind, Program.ensures_environment, Program.after_ok]
    refine ofExcept_bind (staged.proceeds _) fun u valid => ?_
    rw [Program.ensures_bind, Program.ensures_get, Program.after_ok]
    cases found : s.published snapshotId with
    | some published =>
      exact completedSnapshot_proceeds start named found (mapError_ok.mp valid) proper
    | none => exact newSnapshot_proceeds binding start named found (mapError_ok.mp valid) proper

end Steps

/-! ## Runs -/

/-- One call of a run. -/
structure Step where
  call : BackupCall
  attempt : Attempt

section Runs

variable (platform : EvidencePlatform) (deploymentId localTargetId : String)

def emptyStore : EvidenceStore where
  snapshots := []
  manifest := none
  restoreReceipt := none
  offHostReceipt := none
  restoreTests _ := ⟨none, none⟩

/-- The store after the calls of a run. -/
def run (s : EvidenceStore) : List Step → EvidenceStore
  | [] => s
  | step :: rest =>
    run (answer platform deploymentId localTargetId step.attempt s step.call) rest

/-- Every call of a run is proper where it is made. -/
def ProperRun (s : EvidenceStore) : List Step → Prop
  | [] => True
  | step :: rest => Proper platform deploymentId step.attempt s step.call ∧
      ProperRun (answer platform deploymentId localTargetId step.attempt s step.call) rest

/-- What a rehearsal of an earlier call has restored. -/
def Rehearsed (steps : List Step) (manifest : SnapshotManifest) : Prop :=
  ∃ step ∈ steps, (∃ operationId, step.call = .restoreTest operationId) ∧
    step.attempt.rehearsal manifest = .ok ()

/-- A receipt that an earlier call has brought. -/
def Copied (steps : List Step) (receipt : OffHostCopyReceipt) : Prop :=
  ∃ step ∈ steps, step.call = .offHostRecord receipt

/-- What is shown is of the latest snapshot, and every receipt is of a rehearsal or a copy. -/
structure Current (steps : List Step) (s : EvidenceStore) : Prop where
  shown (hasPrevious : Bool) : ∃ projection,
    backupProjection platform deploymentId hasPrevious s = .ok projection ∧
    ∀ shown, projection.snapshot = some shown → ∃ manifest, s.manifest = some manifest ∧
      shown.snapshotId = manifest.snapshotId ∧ shown.manifestSha256 = manifest.manifestSha256 ∧
      (∀ time, shown.restoreTestedAt = some time → ∃ receipt, s.restoreReceipt = some receipt ∧
        receipt.validateAgainst manifest = .ok () ∧ receipt.restoredAt = time) ∧
      (∀ time, shown.offHostVerifiedAt = some time → ∃ receipt, s.offHostReceipt = some receipt ∧
        validateOffHost receipt manifest = .ok () ∧ receipt.verifiedAt = time)
  tested : ∀ receipt, (s.restoreReceipt = some receipt ∨
      ∃ id, (s.restoreTests id).receipt = some receipt) → Tested (Rehearsed steps) receipt
  copied : ∀ receipt, (s.offHostReceipt = some receipt ∨
      ∃ entry ∈ s.snapshots, entry.2.offHostCopy = some receipt) → Copied steps receipt

end Runs

section Results

variable {platform : EvidencePlatform} {deploymentId localTargetId : String}
  {rehearsed : SnapshotManifest → Prop} {copied : OffHostCopyReceipt → Prop} {e : Attempt}
  {s : EvidenceStore}

theorem restoreTestedAt_sound (sound : Sound platform deploymentId rehearsed copied s)
    {manifest : SnapshotManifest} (current : s.manifest = some manifest) :
    ∃ time, restoreTestedAt s manifest = .ok time ∧ ∀ at', time = some at' →
      ∃ receipt, s.restoreReceipt = some receipt ∧
        receipt.validateAgainst manifest = .ok () ∧ receipt.restoredAt = at' := by
  unfold restoreTestedAt
  cases found : s.restoreReceipt with
  | none => exact ⟨none, rfl, fun _ wrong => by cases wrong⟩
  | some receipt =>
    have valid := sound.restored receipt manifest found current
    refine ⟨some receipt.restoredAt, bind_ok.mpr ⟨(), valid, rfl⟩, fun time same => ?_⟩
    cases same
    exact ⟨receipt, rfl, valid, rfl⟩

theorem offHostVerifiedAt_sound (sound : Sound platform deploymentId rehearsed copied s)
    {manifest : SnapshotManifest} (current : s.manifest = some manifest) :
    ∃ time, offHostVerifiedAt s manifest = .ok time ∧ ∀ at', time = some at' →
      ∃ receipt, s.offHostReceipt = some receipt ∧
        validateOffHost receipt manifest = .ok () ∧ receipt.verifiedAt = at' := by
  unfold offHostVerifiedAt
  cases found : s.offHostReceipt with
  | none => exact ⟨none, rfl, fun _ wrong => by cases wrong⟩
  | some receipt =>
    have valid := sound.verified receipt manifest found current
    refine ⟨some receipt.verifiedAt, bind_ok.mpr ⟨(), valid, rfl⟩, fun time same => ?_⟩
    cases same
    exact ⟨receipt, rfl, valid, rfl⟩

theorem currentManifest_sound (sound : Sound platform deploymentId rehearsed copied s) :
    currentManifest platform deploymentId s = .ok s.manifest := by
  cases current : s.manifest with
  | none =>
    rw [currentManifest, current]
    refine bind_ok.mpr ⟨none, rfl, bind_ok.mpr ⟨(), check_ok.mpr ?_, rfl⟩⟩
    exact fun _ wrong => by cases wrong
  | some manifest =>
    have owned := held_owned sound (sound.latest manifest current)
    rw [currentManifest, current]
    refine bind_ok.mpr ⟨some manifest, ?_, bind_ok.mpr ⟨(), check_ok.mpr ?_, rfl⟩⟩
    · rw [loadManifest, owned.valid]
    · intro other same
      cases same
      exact owned.deployment

/-- What is shown of a sound store. -/
theorem sound_current {steps : List Step}
    (sound : Sound platform deploymentId (Rehearsed steps) (Copied steps) s) :
    Current platform deploymentId steps s where
  shown hasPrevious := by
    rw [backupProjection, inspectBackup, currentManifest_sound sound]
    cases current : s.manifest with
    | none => exact ⟨⟨hasPrevious, none⟩, rfl, fun _ wrong => by cases wrong⟩
    | some manifest =>
      obtain ⟨restored, read, binds⟩ := restoreTestedAt_sound sound current
      obtain ⟨verified, read', binds'⟩ := offHostVerifiedAt_sound sound current
      simp only [diagnosed, read, read']
      refine ⟨_, rfl, fun shown same => ?_⟩
      cases same
      exact ⟨manifest, rfl, rfl, rfl, binds, binds'⟩
  tested receipt found := by
    rcases found with latest | ⟨id, own⟩
    · exact sound.tested receipt latest
    · exact sound.testedOwn id receipt own
  copied receipt found := by
    rcases found with latest | ⟨entry, member, own⟩
    · exact sound.copies receipt latest
    · exact sound.copiesOwn entry member receipt own

theorem answer_proceeds (binding : Binding platform) {step : Step}
    (sound : Sound platform deploymentId rehearsed copied s)
    (proper : Proper platform deploymentId step.attempt s step.call)
    (restores : ∀ manifest, Rehearsed [step] manifest → rehearsed manifest)
    (brings : ∀ receipt, Copied [step] receipt → copied receipt) :
    Proceeds platform deploymentId rehearsed copied step.call s
      (answer platform deploymentId localTargetId step.attempt s step.call) := by
  obtain ⟨call, attempt⟩ := step
  cases call with
  | snapshot operationId => exact snapshot_proceeds binding sound proper
  | restoreTest operationId =>
    refine Steady.proceeds (restoreTest_steady binding (fun manifest answered => ?_) s
      (Steady.refl sound)).1 _
    exact restores manifest ⟨_, List.mem_singleton_self _, ⟨operationId, rfl⟩, answered⟩
  | offHostRecord receipt =>
    have known : copied receipt := brings receipt ⟨_, List.mem_singleton_self _, rfl⟩
    have bound : Program.UpholdsIn attempt (Steady platform deploymentId rehearsed copied s)
        (answerOffHostRecord platform localTargetId receipt) (fun _ => True) :=
      Program.upholdsIn_bind (Program.upholds_require _ _).within fun _ _ =>
        recordOffHostCopy_steady binding known
    exact Steady.proceeds (bound s (Steady.refl sound)).1 _

theorem run_append (first second : List Step) :
    run platform deploymentId localTargetId s (first ++ second) =
      run platform deploymentId localTargetId (run platform deploymentId localTargetId s first)
        second := by
  induction first generalizing s with
  | nil => rfl
  | cons step rest ih => exact ih

theorem properRun_append {first second : List Step} :
    ProperRun platform deploymentId localTargetId s (first ++ second) ↔
      ProperRun platform deploymentId localTargetId s first ∧
        ProperRun platform deploymentId localTargetId
          (run platform deploymentId localTargetId s first) second := by
  induction first generalizing s with
  | nil => simp [ProperRun, run]
  | cons step rest ih =>
    rw [List.cons_append, ProperRun, ProperRun, ih, run, and_assoc]

theorem run_sound (binding : Binding platform) {steps : List Step}
    (sound : Sound platform deploymentId rehearsed copied s)
    (proper : ProperRun platform deploymentId localTargetId s steps)
    (restores : ∀ manifest, Rehearsed steps manifest → rehearsed manifest)
    (brings : ∀ receipt, Copied steps receipt → copied receipt) :
    Sound platform deploymentId rehearsed copied
      (run platform deploymentId localTargetId s steps) := by
  induction steps generalizing s with
  | nil => exact sound
  | cons step rest ih =>
    refine ih (answer_proceeds binding sound proper.1 ?_ ?_).sound proper.2 ?_ ?_
    · rintro manifest ⟨own, member, restored⟩
      exact restores manifest ⟨own, List.mem_cons.mpr (.inl (List.mem_singleton.mp member)),
        restored⟩
    · rintro receipt ⟨own, member, brought⟩
      exact brings receipt ⟨own, List.mem_cons.mpr (.inl (List.mem_singleton.mp member)), brought⟩
    · rintro manifest ⟨own, member, restored⟩
      exact restores manifest ⟨own, List.mem_cons_of_mem _ member, restored⟩
    · rintro receipt ⟨own, member, brought⟩
      exact brings receipt ⟨own, List.mem_cons_of_mem _ member, brought⟩

theorem emptyStore_sound : Sound platform deploymentId rehearsed copied emptyStore where
  distinct := List.nodup_nil
  owned _ member := by cases member
  latest _ found := by cases found
  absent _ := ⟨rfl, rfl⟩
  restored _ _ found := by cases found
  verified _ _ found := by cases found
  tested _ found := by cases found
  testedOwn _ _ found := by cases found
  pinned _ _ found := by cases found
  copies _ found := by cases found
  copiesOwn _ member := by cases member

end Results

section Sample

def firstId : String := "0190a0b0-0000-7000-8000-000000000001"
def secondId : String := "0190a0b0-0000-7000-8000-000000000002"

def sampleDigest : String := String.ofList (List.replicate 64 '0')

def samplePlatform : EvidencePlatform where
  isUuid text := text ∈ [firstId, secondId]
  semver _ := .error "unexpected character"
  decode _ := .error "expected value at line 1 column 1"
  timeText _ := "1970-01-01T00:00:00Z"
  computedSha256 manifest := manifest.snapshotId
  sha256 _ := sampleDigest
  parseUuid text := if text ∈ [firstId, secondId] then .ok text else .error "invalid character"

theorem samplePlatform_binding : Binding samplePlatform where
  own _ _ := rfl
  names _ _ same := same

def sampleCaptured : Captured where
  runtimeArtifact := .oci "auth" (String.ofList ("sha256:".toList ++ List.replicate 64 '0'))
  release := ⟨"1.0.0"⟩
  configSchema := "v1"
  dump := [100]
  archive := [116]
  archiveFiles := [⟨"app-secrets/mfa-totp-key", 32, sampleDigest⟩]
  databaseSentinelSha256 := sampleDigest
  runtimeInstanceKeyId := "key"
  oidcSigningKeyIds := ["key"]

/-- An attempt that is lost at one effect, if any. -/
def attemptUntil (lost : Option EvidenceEffect) : Attempt where
  faults label := if lost = some label then .crash else .none
  stateValid := .ok ()
  isContainer := true
  captured := sampleCaptured
  rehearsal _ := .ok ()
  now := 0

def sampleManifest (snapshotId : String) : SnapshotManifest where
  schema := backupManifestSchema
  deploymentId := "auth"
  snapshotId := snapshotId
  createdAt := 0
  runtimeArtifact := sampleCaptured.runtimeArtifact
  release := ⟨"1.0.0"⟩
  rollbackPolicy := none
  configSchema := "v1"
  files := [⟨"postgresql.dump", 1, sampleDigest⟩, ⟨"deployment.tar", 1, sampleDigest⟩]
  archiveFiles := sampleCaptured.archiveFiles
  databaseSentinelSha256 := sampleDigest
  mfaKeySha256 := sampleDigest
  runtimeInstanceKeyId := "key"
  oidcSigningKeyIds := ["key"]
  manifestSha256 := snapshotId

theorem sampleDigest_text : sampleDigest.toList = List.replicate 64 '0' := String.toList_ofList

theorem sampleDigest_digits : sampleDigest.toList.all isLowerHex = true := by
  rw [sampleDigest_text, List.all_replicate]
  decide

theorem sampleDigest_size : sampleDigest.utf8ByteSize = 64 := by
  have same : sampleDigest =
      "0000000000000000000000000000000000000000000000000000000000000000" := rfl
  rw [same]
  decide

theorem sampleDigest_valid (label : String) : validateSha256 sampleDigest label = .ok () := by
  rw [validateSha256, isSha256, check, if_pos ⟨sampleDigest_size, sampleDigest_digits⟩]

theorem sampleArtifact_digest :
    sha256Digest (String.ofList ("sha256:".toList ++ List.replicate 64 '0')) =
      some sampleDigest := by
  rw [sha256Digest, String.toList_ofList (l := "sha256:".toList ++ List.replicate 64 '0'),
    if_pos (List.prefix_append _ _)]
  rfl

theorem sampleArtifact_valid : validateRuntimeArtifact sampleCaptured.runtimeArtifact = .ok () := by
  have reference : "auth" ≠ "" ∧ "auth".utf8ByteSize ≤ 512 ∧
      "auth".toList.all fun c => !isWhitespace c := by decide
  rw [sampleCaptured, validateRuntimeArtifact, check, if_pos reference, ok_bind,
    sampleArtifact_digest]
  exact sampleDigest_valid _

theorem sampleFile_valid {path : String} {size : ℕ}
    (named : path ∈ ["postgresql.dump", "deployment.tar", "app-secrets/mfa-totp-key"]) :
    SnapshotFile.validate ⟨path, size, sampleDigest⟩ = .ok () := by
  have proper : ∀ path ∈ ["postgresql.dump", "deployment.tar", "app-secrets/mfa-totp-key"],
      path ≠ "" ∧ path.utf8ByteSize ≤ 512 ∧ path.toList.head? ≠ some '/' ∧
      (∀ part ∈ path.toList.splitOn '/', part ≠ [] ∧ part ≠ ['.'] ∧ part ≠ ['.', '.']) ∧
      path.toList.all fun c => isAsciiGraphic c && c ≠ '\\' := by decide
  rw [SnapshotFile.validate, check, if_pos (proper path named), ok_bind]
  exact sampleDigest_valid _

theorem identifiers_valid : ∀ value ∈ ["auth", "1.0.0", "v1", "key"], ∀ maxChars ∈ [64, 128, 256],
    TargetState.isIdentifier maxChars value = true := by
  decide

theorem sampleManifest_contents {snapshotId : String} (known : snapshotId ∈ [firstId, secondId]) :
    (sampleManifest snapshotId).validateContents samplePlatform.toBackupPlatform = .ok () := by
  have identifier : ∀ value ∈ ["auth", "1.0.0", "v1", "key"], ∀ maxChars ∈ [64, 128, 256],
      ∀ label, validateIdentifier value maxChars label = .ok () := by
    intro value member maxChars bound label
    rw [validateIdentifier, check, if_pos (identifiers_valid value member maxChars bound)]
  have named : samplePlatform.isUuid snapshotId = true := decide_eq_true known
  have files : validateFiles [⟨"postgresql.dump", 1, sampleDigest⟩,
      ⟨"deployment.tar", 1, sampleDigest⟩] = .ok () := by
    rw [validateFiles, sampleFile_valid (by decide), ok_bind, validateFiles,
      sampleFile_valid (by decide), ok_bind, validateFiles]
  have archived : validateArchiveFiles [] sampleCaptured.archiveFiles = .ok () := by
    rw [sampleCaptured, validateArchiveFiles, sampleFile_valid (by decide), ok_bind]
    rfl
  have keys : validateKeyIds none ["key"] = .ok () := by
    rw [validateKeyIds, identifier _ (by decide) _ (by decide), ok_bind]
    rfl
  simp only [SnapshotManifest.validateContents, sampleManifest]
  refine bind_ok.mpr ⟨(), check_ok.mpr (.inl trivial), bind_ok.mpr ⟨(), check_ok.mpr trivial, ?_⟩⟩
  rw [identifier _ (by decide) _ (by decide), ok_bind]
  refine bind_ok.mpr ⟨(), check_ok.mpr named, ?_⟩
  rw [ReleaseVersion.validate, identifier _ (by decide) _ (by decide), ok_bind,
    identifier _ (by decide) _ (by decide), ok_bind, sampleArtifact_valid, ok_bind]
  refine bind_ok.mpr ⟨(), check_ok.mpr rfl, ?_⟩
  rw [files, ok_bind]
  refine bind_ok.mpr ⟨(), check_ok.mpr (by simp), bind_ok.mpr ⟨(), check_ok.mpr (by decide), ?_⟩⟩
  rw [archived, ok_bind, sampleDigest_valid, ok_bind, sampleDigest_valid, ok_bind,
    identifier _ (by decide) _ (by decide), ok_bind, keys]
  rfl

theorem sampleManifest_created {snapshotId : String} (known : snapshotId ∈ [firstId, secondId]) :
    createSnapshot samplePlatform "auth" sampleCaptured 0 snapshotId =
      .ok (sampleManifest snapshotId) := by
  have contents := sampleManifest_contents known
  have mfaKey : sampleCaptured.archiveFiles.find?
      (fun file => file.path = "app-secrets/mfa-totp-key") =
        some ⟨"app-secrets/mfa-totp-key", 32, sampleDigest⟩ := by
    rw [sampleCaptured, List.find?_cons_of_pos (by simp)]
  have blank : ({ sampleManifest snapshotId with manifestSha256 := "" }).validateContents
      samplePlatform.toBackupPlatform = .ok () := contents
  rw [createSnapshot, mfaKey]
  refine bind_ok.mpr ⟨⟨"postgresql.dump", 1, sampleDigest⟩,
    bind_ok.mpr ⟨(), check_ok.mpr (by decide), rfl⟩, ?_⟩
  refine bind_ok.mpr ⟨⟨"deployment.tar", 1, sampleDigest⟩,
    bind_ok.mpr ⟨(), check_ok.mpr (by decide), rfl⟩, ?_⟩
  exact bind_ok.mpr ⟨(), blank, rfl⟩

theorem effect_runs {e : Attempt} {label : EvidenceEffect} {refuse : String → Failure} {α : Type}
    {body : Evidencing α} {s : EvidenceStore} (none : e.faults label = .none) :
    Program.effect (fun attempt => attempt.faults label) refuse body e s = body e s := by
  rw [Program.effect, none]

/-- The store with one more snapshot. -/
def withSnapshot (s : EvidenceStore) (snapshotId : String) : EvidenceStore :=
  { s with snapshots := s.snapshots ++
    [(snapshotId, ⟨stagedFiles sampleCaptured, some (sampleManifest snapshotId), none⟩)] }

/-- The store whose latest snapshot is one without receipts. -/
def showing (s : EvidenceStore) (snapshotId : String) : EvidenceStore :=
  { s with
    manifest := some (sampleManifest snapshotId)
    restoreReceipt := none
    offHostReceipt := none }

theorem newSnapshot_published {snapshotId : String} (known : snapshotId ∈ [firstId, secondId])
    {s : EvidenceStore} {lost : Option EvidenceEffect}
    (late : lost = none ∨ lost = some .writeManifest) :
    newSnapshot samplePlatform "auth" snapshotId (attemptUntil lost) s =
      showSnapshot (sampleManifest snapshotId) (attemptUntil lost) (withSnapshot s snapshotId) := by
  have runs : ∀ label ∈ [EvidenceEffect.ensureRoot, .removePartial, .createPartial,
      .createSnapshot, .writeImmutable, .publish, .syncParent],
      (attemptUntil lost).faults label = .none := by
    rcases late with rfl | rfl
    · decide
    · decide
  have created : (backing .createSnapshot (Program.ofExcept ((createSnapshot samplePlatform "auth"
      (attemptUntil lost).captured (attemptUntil lost).now snapshotId).mapError
        SnapshotImport.backupFailure)) : Evidencing SnapshotManifest) (attemptUntil lost) s =
      (.ok (sampleManifest snapshotId), s) := by
    have made : createSnapshot samplePlatform "auth" (attemptUntil lost).captured
        (attemptUntil lost).now snapshotId = .ok (sampleManifest snapshotId) :=
      sampleManifest_created known
    rw [backing, effect_runs (runs _ (by decide)), made]
    rfl
  rw [newSnapshot, Program.run_bind_ok Program.run_environment,
    Program.run_bind_ok (Program.run_require _ _),
    Program.run_bind_ok (effect_runs (runs _ (by decide))),
    Program.run_bind_ok (effect_runs (runs _ (by decide))),
    Program.run_bind_ok (effect_runs (runs _ (by decide))),
    Program.run_bind_ok created,
    Program.run_bind_ok (effect_runs (runs _ (by decide))),
    Program.run_bind_ok (effect_runs (runs _ (by decide))),
    Program.run_bind_ok (effect_runs (runs _ (by decide)))]
  rfl

theorem snapshot_fresh {snapshotId : String} (known : snapshotId ∈ [firstId, secondId])
    {s : EvidenceStore} {lost : Option EvidenceEffect}
    (late : lost = none ∨ lost = some .writeManifest) (absent : s.published snapshotId = none) :
    snapshot samplePlatform "auth" snapshotId (attemptUntil lost) s =
      showSnapshot (sampleManifest snapshotId) (attemptUntil lost) (withSnapshot s snapshotId) := by
  have named : samplePlatform.parseUuid snapshotId = .ok snapshotId := if_pos known
  have found : snapshot samplePlatform "auth" snapshotId (attemptUntil lost) s =
      (match s.published snapshotId with
        | some published => completedSnapshot samplePlatform "auth" snapshotId published
        | none => newSnapshot samplePlatform "auth" snapshotId) (attemptUntil lost) s := by
    rw [snapshot, named]
    rfl
  rw [found, absent]
  exact newSnapshot_published known late

theorem sampleManifest_loaded {snapshotId : String} (known : snapshotId ∈ [firstId, secondId]) :
    loadManifest samplePlatform (some (sampleManifest snapshotId)) =
      .ok (some (sampleManifest snapshotId)) := by
  have valid : (sampleManifest snapshotId).validate samplePlatform.toBackupPlatform = .ok () :=
    bind_ok.mpr ⟨(), sampleManifest_contents known, check_ok.mpr rfl⟩
  rw [loadManifest, valid]

theorem sampleFiles_verified (snapshotId : String) :
    verifySnapshotFiles samplePlatform.toBackupPlatform (stagedFiles sampleCaptured)
      (sampleManifest snapshotId) = .ok () := by
  have file : ∀ path ∈ ["postgresql.dump", "deployment.tar"],
      verifyFile samplePlatform.toBackupPlatform (stagedFiles sampleCaptured)
        ⟨path, 1, sampleDigest⟩ = .ok () := by
    intro path member
    have held : ∃ byte : UInt8, stagedFiles sampleCaptured path = some (.file [byte]) := by
      simp only [List.mem_cons, List.not_mem_nil, or_false] at member
      rcases member with rfl | rfl
      · exact ⟨100, rfl⟩
      · exact ⟨116, rfl⟩
    obtain ⟨byte, found⟩ := held
    rw [verifyFile, found]
    exact check_ok.mpr ⟨rfl, rfl⟩
  rw [verifySnapshotFiles, sampleManifest]
  refine bind_ok.mpr ⟨(), check_ok.mpr (by simp), ?_⟩
  rw [verifyFiles, file _ (by decide), ok_bind, verifyFiles, file _ (by decide), ok_bind,
    verifyFiles]

theorem snapshot_again {snapshotId : String} (known : snapshotId ∈ [firstId, secondId])
    {s : EvidenceStore} (present : s.published snapshotId =
      some ⟨stagedFiles sampleCaptured, some (sampleManifest snapshotId), none⟩) :
    snapshot samplePlatform "auth" snapshotId (attemptUntil none) s =
      showSnapshot (sampleManifest snapshotId) (attemptUntil none) s := by
  have named : samplePlatform.parseUuid snapshotId = .ok snapshotId := if_pos known
  have found : snapshot samplePlatform "auth" snapshotId (attemptUntil none) s =
      (match s.published snapshotId with
        | some published => completedSnapshot samplePlatform "auth" snapshotId published
        | none => newSnapshot samplePlatform "auth" snapshotId) (attemptUntil none) s := by
    rw [snapshot, named]
    rfl
  rw [found, present]
  have loaded : (backing .loadManifest (Program.ofExcept ((loadManifest samplePlatform
      (some (sampleManifest snapshotId))).mapError SnapshotImport.backupFailure)) :
        Evidencing (Option SnapshotManifest)) (attemptUntil none) s =
      (.ok (some (sampleManifest snapshotId)), s) := by
    rw [backing, effect_runs rfl, sampleManifest_loaded known]
    rfl
  have verified : (backing .verifySnapshot (Program.ofExcept ((verifySnapshotFiles
      samplePlatform.toBackupPlatform (stagedFiles sampleCaptured)
      (sampleManifest snapshotId)).mapError SnapshotImport.backupFailure)) :
        Evidencing Unit) (attemptUntil none) s = (.ok (), s) := by
    rw [backing, effect_runs rfl, sampleFiles_verified]
    rfl
  show completedSnapshot samplePlatform "auth" snapshotId _ (attemptUntil none) s = _
  rw [completedSnapshot, Program.run_bind_ok loaded]
  show (Program.require _ _ >>= fun _ => _) (attemptUntil none) s = _
  rw [Program.run_bind_ok ((Program.run_require _ _).trans (by rw [if_pos ⟨rfl, rfl⟩])),
    Program.run_bind_ok verified]

/-- The first snapshot is published and cut off, and runs again after the second one. -/
def runAgain : List Step :=
  [⟨.snapshot firstId, attemptUntil (some .writeManifest)⟩, ⟨.snapshot secondId, attemptUntil none⟩,
    ⟨.snapshot firstId, attemptUntil none⟩]

def secondShown : EvidenceStore :=
  showing (withSnapshot (withSnapshot emptyStore firstId) secondId) secondId

theorem ids_differ : firstId ≠ secondId := by
  decide

theorem runAgain_first :
    run samplePlatform "auth" "host" emptyStore (runAgain.take 1) =
      withSnapshot emptyStore firstId := by
  have steps : runAgain.take 1 = [⟨.snapshot firstId, attemptUntil (some .writeManifest)⟩] := rfl
  rw [steps, run, run, answer, snapshot_fresh (by simp) (.inr rfl) rfl]
  rfl

theorem runAgain_second :
    run samplePlatform "auth" "host" emptyStore (runAgain.take 2) = secondShown := by
  have absent : (withSnapshot emptyStore firstId).published secondId = none := by
    simp [EvidenceStore.published, withSnapshot, emptyStore, ids_differ]
  have split : runAgain.take 2 =
      runAgain.take 1 ++ [⟨.snapshot secondId, attemptUntil none⟩] := rfl
  rw [split, run_append, runAgain_first, run, run, answer,
    snapshot_fresh (by simp) (.inl rfl) absent]
  rfl

theorem runAgain_last :
    run samplePlatform "auth" "host" emptyStore runAgain = showing secondShown firstId := by
  have present : secondShown.published firstId =
      some ⟨stagedFiles sampleCaptured, some (sampleManifest firstId), none⟩ := by
    simp [EvidenceStore.published, secondShown, showing, withSnapshot, emptyStore]
  have split : runAgain = runAgain.take 2 ++ [⟨.snapshot firstId, attemptUntil none⟩] := rfl
  rw [split, run_append, runAgain_second, run, run, answer, snapshot_again (by simp) present]
  rfl

end Sample

end NazoAuthCtl.EvidenceRuns
