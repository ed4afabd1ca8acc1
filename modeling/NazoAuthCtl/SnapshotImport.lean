import NazoAuthCtl.FaultProgram
import NazoAuthCtl.SnapshotManifests

/-!
# Publishing an imported snapshot

An import ends with a partial directory that is verified against its manifest. It becomes the
snapshot by one rename, or it is removed when the snapshot is there already. The manifest is
copied beside the partial directory before that, and a repeated call reads the copy once the
directory is gone. A directory is not removed in one step.
-/

set_option autoImplicit false
set_option linter.all false

namespace NazoAuthCtl.SnapshotImport

open Checks StateDocument FaultProgram SnapshotManifests

/-- What one import has under `backup` of its deployment. -/
structure Transfer where
  /-- `transfers/import-<operation>.partial`. -/
  incoming : Option Directory
  /-- `transfers/import-<operation>.manifest.json`. -/
  binding : Option Entry
  /-- `snapshots`, by name. -/
  snapshots : String → Option Directory

inductive ImportEffect where
  | readManifest
  | readExisting
  | verifyExisting
  | verifyIncoming
  | writeBinding
  | removeIncoming
  | ensureRoot
  | rename
  | syncPublished
  | syncSnapshots
  | syncTransfers
  deriving DecidableEq, Repr

/-- One call of `finalize_import`. -/
structure Attempt where
  faults : ImportEffect → Fault String
  /-- The entries that are gone when the removal of the partial directory fails or is lost. -/
  gone : String → Bool
  now : Timestamp

structure ImportOrder where
  deploymentId : String
  transferOperationId : String
  expectedManifestSha256 : String
  sourceHostId : String
  destinationHostId : String
  deriving DecidableEq, Repr

structure OffHostCopyReceipt where
  schema : UInt32
  deploymentId : String
  snapshotId : String
  manifestSha256 : String
  sourceHostId : String
  destinationHostId : String
  verifiedAt : Timestamp
  deriving DecidableEq, Repr

def offHostCopyReceiptSchema : UInt32 := 1

abbrev Importing := Program Attempt Transfer Failure

/-- `sanitize`. -/
def sanitize (text : String) : String :=
  String.ofList ((text.toList.take 200).map fun c => if isControl c then '?' else c) ++
    if 200 < text.toList.length then "…" else ""

def backupFailure (error : String) : Failure := ⟨"BACKUP_EXECUTION_FAILED", sanitize error⟩

variable {α : Type}

def importing (label : ImportEffect) (body : Importing α) : Importing α :=
  Program.effect (fun attempt => attempt.faults label) backupFailure body

def checking (label : ImportEffect) (result : Except String α) : Importing α :=
  importing label (Program.ofExcept (result.mapError backupFailure))

section platform

variable (platform : BackupPlatform) (order : ImportOrder)

/-- The manifest of the partial directory or, once that is gone, its copy. -/
def requestedManifest (transfer : Transfer) : Except Failure SnapshotManifest := do
  let entry := match transfer.incoming with
    | some directory => directory immutableManifestFile
    | none => transfer.binding
  match ← (loadManifestAt platform entry).mapError backupFailure with
  | none => .error ⟨"BACKUP_EXECUTION_FAILED", "backup import has no immutable manifest"⟩
  | some manifest => do
    check (manifest.deploymentId = order.deploymentId ∧
        manifest.manifestSha256 = order.expectedManifestSha256)
      (Failure.mk "BACKUP_EXECUTION_FAILED"
        "backup import manifest binding differs from the transfer request")
    pure manifest

def existingManifest (published : Directory) (manifest : SnapshotManifest) :
    Except Failure Unit := do
  match ← (loadManifestAt platform (published immutableManifestFile)).mapError backupFailure with
  | none => .error ⟨"BACKUP_EXECUTION_FAILED", "destination snapshot has no immutable manifest"⟩
  | some existing =>
    check (existing.manifestSha256 = manifest.manifestSha256)
      (Failure.mk "BACKUP_EXECUTION_FAILED"
        "destination snapshot id is occupied by different bytes")

/-- `write_manifest_at`. -/
def writeBinding (manifest : SnapshotManifest) : Importing Unit :=
  importing .writeBinding do
    Program.require ((platform.encode manifest).length ≤ maxBackupEvidenceBytes)
      (backupFailure (s!"backup evidence exceeds its {maxBackupEvidenceBytes}-byte " ++
        "read/write limit"))
    Program.modify fun transfer =>
      { transfer with binding := some (.file (platform.encode manifest)) }

def dropEntries (directory : Directory) (gone : String → Bool) : Directory := fun name =>
  if gone name then none else directory name

/-- `remove_dir_all`, whose directory goes last. -/
def removeIncoming : Importing Unit := fun attempt transfer =>
  match attempt.faults .removeIncoming with
  | .none => (.ok (), { transfer with incoming := none })
  | .fail detail => (.error (backupFailure detail), { transfer with
      incoming := transfer.incoming.map (dropEntries · attempt.gone) })
  | .crash => (.crashed, { transfer with
      incoming := transfer.incoming.map (dropEntries · attempt.gone) })

def verifyIncoming (incoming : Option Directory) (manifest : SnapshotManifest) :
    Except String Unit :=
  verifySnapshotFiles platform (incoming.getD fun _ => none) manifest

/-- The branch of a snapshot that is there. -/
def keepPublished (transfer : Transfer) (published : Directory) (manifest : SnapshotManifest) :
    Importing Unit := do
  importing .readExisting (Program.ofExcept (existingManifest platform published manifest))
  checking .verifyExisting (verifySnapshotFiles platform published manifest)
  Program.onlyIf (transfer.incoming.isSome = true) do
    checking .verifyIncoming (verifyIncoming platform transfer.incoming manifest)
    writeBinding platform manifest
    removeIncoming

def publish (transfer : Transfer) (snapshotId : String) : Transfer where
  incoming := none
  binding := transfer.binding
  snapshots name := if name = snapshotId then transfer.incoming else transfer.snapshots name

/-- The branch of a snapshot that is not there. -/
def publishIncoming (transfer : Transfer) (manifest : SnapshotManifest) : Importing Unit := do
  checking .verifyIncoming (verifyIncoming platform transfer.incoming manifest)
  writeBinding platform manifest
  importing .ensureRoot (pure ())
  importing .rename (Program.modify fun transfer => publish transfer manifest.snapshotId)
  importing .syncPublished (pure ())

def settleIncoming (transfer : Transfer) (manifest : SnapshotManifest) : Importing Unit :=
  match transfer.snapshots manifest.snapshotId with
  | some published => keepPublished platform transfer published manifest
  | none => publishIncoming platform transfer manifest

def receiptOf (manifest : SnapshotManifest) (now : Timestamp) : OffHostCopyReceipt where
  schema := offHostCopyReceiptSchema
  deploymentId := order.deploymentId
  snapshotId := manifest.snapshotId
  manifestSha256 := manifest.manifestSha256
  sourceHostId := order.sourceHostId
  destinationHostId := order.destinationHostId
  verifiedAt := now

def finalizeImport : Importing OffHostCopyReceipt := do
  Program.require (platform.isUuid order.transferOperationId = true)
    ⟨"OPERATION_INVALID", "backup copy operation id must be a UUID"⟩
  let transfer ← Program.get
  let manifest ← importing .readManifest
    (Program.ofExcept (requestedManifest platform order transfer))
  settleIncoming platform transfer manifest
  importing .syncSnapshots (pure ())
  importing .syncTransfers (pure ())
  pure (receiptOf order manifest (← Program.environment).now)

end platform

/-! ## Reading -/

section reading

variable {platform : BackupPlatform} {order : ImportOrder} {manifest : SnapshotManifest}

theorem loadManifestAt_ok {entry : Option Entry} :
    loadManifestAt platform entry = .ok (some manifest) ↔
      ∃ bytes, entry = some (.file bytes) ∧ bytes.length ≤ maxBackupEvidenceBytes ∧
        platform.decode bytes = .ok manifest ∧ manifest.validate platform = .ok () := by
  cases entry with
  | none => simp [loadManifestAt]
  | some entry =>
    cases entry with
    | other => simp [loadManifestAt]
    | file bytes =>
      have reads : ∀ found, readManifest platform bytes = .ok found ↔
          bytes.length ≤ maxBackupEvidenceBytes ∧ platform.decode bytes = .ok found ∧
            found.validate platform = .ok () := by
        intro found
        simp only [readManifest, bind_ok, exists_unit, check_ok, pure_ok]
        constructor
        · rintro ⟨fits, decoded, reads, valid, rfl⟩
          exact ⟨fits, reads, valid⟩
        · rintro ⟨fits, reads, valid⟩
          exact ⟨fits, found, reads, valid, rfl⟩
      have spelled := reads manifest
      cases read : readManifest platform bytes with
      | ok found =>
        rw [read] at spelled
        simp only [loadManifestAt, read, Except.ok.injEq, Option.some.injEq, Entry.file.injEq,
          exists_eq_left']
        simpa using spelled
      | error error =>
        rw [read] at spelled
        simp only [loadManifestAt, read, Option.some.injEq, Entry.file.injEq, exists_eq_left']
        simpa using spelled

theorem requestedManifest_ok {transfer : Transfer} {entry : Option Entry}
    (source : (match transfer.incoming with
      | some directory => directory immutableManifestFile
      | none => transfer.binding) = entry) :
    requestedManifest platform order transfer = .ok manifest ↔
      loadManifestAt platform entry = .ok (some manifest) ∧
        manifest.deploymentId = order.deploymentId ∧
        manifest.manifestSha256 = order.expectedManifestSha256 := by
  simp only [requestedManifest, source, bind_ok, mapError_ok]
  constructor
  · rintro ⟨found, loaded, accepted⟩
    cases found with
    | none => cases accepted
    | some found =>
      simp only [bind_ok, exists_unit, check_ok, pure_ok] at accepted
      obtain ⟨bound, rfl⟩ := accepted
      exact ⟨loaded, bound⟩
  · rintro ⟨loaded, bound⟩
    refine ⟨some manifest, loaded, ?_⟩
    simpa only [bind_ok, exists_unit, check_ok, pure_ok, and_true] using bound

theorem requestedManifest_missing {transfer : Transfer}
    (source : (match transfer.incoming with
      | some directory => directory immutableManifestFile
      | none => transfer.binding) = none) :
    requestedManifest platform order transfer =
      .error ⟨"BACKUP_EXECUTION_FAILED", "backup import has no immutable manifest"⟩ := by
  simp only [requestedManifest, source]
  rfl

theorem verifyFiles_ok {root : Directory} {files : List SnapshotFile} :
    verifyFiles platform root files = .ok () ↔
      ∀ file ∈ files, verifyFile platform root file = .ok () := by
  induction files with
  | nil => simp [verifyFiles]
  | cons file rest ih =>
    simp only [verifyFiles, bind_ok, exists_unit, ih, List.forall_mem_cons]

theorem verifySnapshotFiles_ok {root : Directory} :
    verifySnapshotFiles platform root manifest = .ok () ↔
      (∀ file ∈ manifest.files, file.path ∈ ["postgresql.dump", "deployment.tar"]) ∧
        ∀ file ∈ manifest.files, verifyFile platform root file = .ok () := by
  simp only [verifySnapshotFiles, bind_ok, exists_unit, check_ok, verifyFiles_ok]

/-- Some of the entries of a directory. -/
def Part (part whole : Directory) : Prop :=
  ∀ name, part name = none ∨ part name = whole name

theorem dropEntries_part {part whole : Directory} (gone : String → Bool)
    (within : Part part whole) : Part (dropEntries part gone) whole := by
  intro name
  unfold dropEntries
  by_cases dropped : gone name
  · rw [if_pos dropped]
    exact Or.inl rfl
  · rw [if_neg dropped]
    exact within name

theorem verifyFile_part {part whole : Directory} {file : SnapshotFile}
    (within : Part part whole) (verified : verifyFile platform whole file = .ok ()) :
    verifyFile platform part file = .ok () ↔ part file.path ≠ none := by
  constructor
  · intro accepted missing
    rw [verifyFile, missing] at accepted
    cases accepted
  · intro present
    have same := (within file.path).resolve_left present
    rw [verifyFile, same]
    exact verified

theorem verify_part {part whole : Directory} (within : Part part whole)
    (verified : verifySnapshotFiles platform whole manifest = .ok ()) :
    verifySnapshotFiles platform part manifest = .ok () ↔
      ∀ file ∈ manifest.files, part file.path ≠ none := by
  rw [verifySnapshotFiles_ok] at verified
  rw [verifySnapshotFiles_ok]
  constructor
  · intro accepted file member
    exact (verifyFile_part within (verified.2 file member)).mp (accepted.2 file member)
  · intro present
    refine ⟨verified.1, fun file member => ?_⟩
    exact (verifyFile_part within (verified.2 file member)).mpr (present file member)

end reading

/-! ## The two branches -/

def Attempt.clean (attempt : Attempt) : Prop :=
  ∀ label, attempt.faults label = .none

/-- The document of the manifest is small enough to be read again. -/
def Fits (platform : BackupPlatform) (manifest : SnapshotManifest) : Prop :=
  (platform.encode manifest).length ≤ maxBackupEvidenceBytes

/-- A published directory that a call accepts as the snapshot of the manifest. -/
def Settled (platform : BackupPlatform) (manifest : SnapshotManifest) (published : Directory) :
    Prop :=
  existingManifest platform published manifest = .ok () ∧
    verifySnapshotFiles platform published manifest = .ok ()

def rebind (platform : BackupPlatform) (manifest : SnapshotManifest) (transfer : Transfer) :
    Transfer :=
  { transfer with binding := some (.file (platform.encode manifest)) }

section branches

variable {platform : BackupPlatform} {order : ImportOrder} {manifest : SnapshotManifest}
  {e : Attempt} {s : Transfer}

theorem ensures_importing (label : ImportEffect) (body : Importing α)
    (Q : Outcome Failure α → Transfer → Prop) :
    Program.Ensures (importing label body) e Q s ↔
      (e.faults label = .none → Program.Ensures body e Q s) ∧
      (∀ d, e.faults label = .fail d → Q (.error (backupFailure d)) s) ∧
      (e.faults label = .crash → Q .crashed s) :=
  Program.ensures_effect _ _ _ _

/-- An attempt that is not clean owes nothing to what a clean one would do. -/
theorem not_clean {label : ImportEffect} {fault : Fault String} {p : Prop}
    (faulted : e.faults label = fault) (bad : fault ≠ .none) : ¬(e.clean ∧ p) :=
  fun clean => bad (faulted.symm.trans (clean.1 label))

/-- A check that reads passes, or the call ends in the state that it was made in. -/
theorem reading_ensures (label : ImportEffect) (result : Except Failure α) :
    Program.Ensures (importing label (Program.ofExcept result)) e
      (fun o s' => s' = s ∧
        ((∃ a, o = .ok a ∧ result = .ok a) ∨
          ((∀ a, o ≠ .ok a) ∧ ∀ a, ¬(e.clean ∧ result = .ok a)))) s := by
  rw [ensures_importing]
  refine ⟨fun _ => ?_, fun d faulted => ?_, fun faulted => ?_⟩
  · rw [Program.ensures_ofExcept]
    constructor
    · intro a passed
      exact ⟨rfl, Or.inl ⟨a, rfl, passed⟩⟩
    · intro failure refused
      refine ⟨rfl, Or.inr ⟨by simp, ?_⟩⟩
      intro a accepted
      rw [refused] at accepted
      cases accepted.2
  · exact ⟨rfl, Or.inr ⟨by simp, fun a => not_clean faulted (by simp)⟩⟩
  · exact ⟨rfl, Or.inr ⟨by simp, fun a => not_clean faulted (by simp)⟩⟩

theorem writeBinding_ensures : Program.Ensures (writeBinding platform manifest) e
    (fun o s' => (o = .ok () ∧ Fits platform manifest ∧ s' = rebind platform manifest s) ∨
      ((∀ u, o ≠ .ok u) ∧ s' = s ∧ ¬(e.clean ∧ Fits platform manifest))) s := by
  rw [writeBinding, ensures_importing]
  refine ⟨fun _ => ?_, fun d faulted => ?_, fun faulted => ?_⟩
  · rw [Program.ensures_bind, Program.ensures_require]
    constructor
    · intro fits
      exact Or.inl ⟨rfl, fits, rfl⟩
    · intro large
      exact Or.inr ⟨by simp, rfl, fun clean => large clean.2⟩
  · exact Or.inr ⟨by simp, rfl, not_clean faulted (by simp)⟩
  · exact Or.inr ⟨by simp, rfl, not_clean faulted (by simp)⟩

/-- Where a call may leave the partial directory. -/
def Reduced (e : Attempt) (s s' : Transfer) : Prop :=
  s'.snapshots = s.snapshots ∧ (s'.incoming = s.incoming ∨
    (e.faults .removeIncoming ≠ .none ∧ s'.incoming = s.incoming.map (dropEntries · e.gone)))

theorem removeIncoming_ensures : Program.Ensures removeIncoming e
    (fun o s' => (o = .ok () ∧ s' = { s with incoming := none }) ∨
      ((∀ u, o ≠ .ok u) ∧ Reduced e s s' ∧ ¬e.clean)) s := by
  unfold Program.Ensures removeIncoming
  cases faulted : e.faults .removeIncoming with
  | none => exact Or.inl ⟨rfl, rfl⟩
  | fail detail =>
    refine Or.inr ⟨by simp, ⟨rfl, Or.inr ⟨by simp [faulted], rfl⟩⟩, fun clean => ?_⟩
    rw [clean] at faulted
    cases faulted
  | crash =>
    refine Or.inr ⟨by simp, ⟨rfl, Or.inr ⟨by simp [faulted], rfl⟩⟩, fun clean => ?_⟩
    rw [clean] at faulted
    cases faulted

/-- What follows an effect that has not taken place is skipped. -/
theorem after_failed {β : Type} {f : α → Importing β} {Q : Outcome Failure β → Transfer → Prop}
    {o : Outcome Failure α} (failed : ∀ a, o ≠ .ok a)
    (skipped : ∀ o' : Outcome Failure β, (∀ b, o' ≠ .ok b) → Q o' s) :
    Program.After f e Q o s := by
  cases o with
  | ok a => exact absurd rfl (failed a)
  | error failure => exact skipped _ (by simp)
  | crashed => exact skipped _ (by simp)

theorem Reduced.refl (e : Attempt) (s : Transfer) : Reduced e s s := ⟨rfl, Or.inl rfl⟩

/-- The branch of a snapshot that is there removes the partial directory in the end. -/
theorem keepPublished_staged {part published : Directory} (held : s.incoming = some part) :
    Program.Ensures (keepPublished platform s published manifest) e
      (fun o s' => (o = .ok () ∧ Settled platform manifest published ∧
          verifySnapshotFiles platform part manifest = .ok () ∧ Fits platform manifest ∧
          s' = { rebind platform manifest s with incoming := none }) ∨
        ((∀ u, o ≠ .ok u) ∧ Reduced e s s' ∧
          ¬(e.clean ∧ Settled platform manifest published ∧
            verifySnapshotFiles platform part manifest = .ok () ∧ Fits platform manifest))) s := by
  have incoming : verifyIncoming platform s.incoming manifest =
      verifySnapshotFiles platform part manifest := by
    rw [verifyIncoming, held]
    rfl
  unfold keepPublished
  refine (reading_ensures .readExisting _).bind ?_
  rintro o s' ⟨rfl, ⟨u, rfl, existing⟩ | ⟨failed, unclean⟩⟩
  · rw [Program.after_ok]
    refine (reading_ensures .verifyExisting _).bind ?_
    rintro o s'' ⟨rfl, ⟨u, rfl, verified⟩ | ⟨failed, unclean⟩⟩
    · rw [mapError_ok] at verified
      rw [Program.after_ok, Program.ensures_onlyIf, held]
      refine ⟨fun _ => ?_, fun absent => absurd rfl absent⟩
      rw [held] at incoming
      refine (reading_ensures .verifyIncoming _).bind ?_
      rintro o s' ⟨rfl, ⟨u, rfl, partly⟩ | ⟨failed, unclean⟩⟩
      · rw [mapError_ok, incoming] at partly
        rw [Program.after_ok]
        refine writeBinding_ensures.bind ?_
        rintro o s' (⟨rfl, fits, rfl⟩ | ⟨failed, rfl, unclean⟩)
        · rw [Program.after_ok]
          refine removeIncoming_ensures.mono ?_
          rintro o s' (⟨rfl, rfl⟩ | ⟨failed, reduced, unclean⟩)
          · exact Or.inl ⟨rfl, ⟨existing, verified⟩, partly, fits, rfl⟩
          · exact Or.inr ⟨failed, reduced, fun clean => unclean clean.1⟩
        · exact after_failed failed fun o' failed' => Or.inr ⟨failed', Reduced.refl e _,
            fun clean => unclean ⟨clean.1, clean.2.2.2⟩⟩
      · refine after_failed failed fun o' failed' => Or.inr ⟨failed', Reduced.refl e _, ?_⟩
        intro clean
        refine unclean () ⟨clean.1, ?_⟩
        rw [mapError_ok, incoming]
        exact clean.2.2.1
    · refine after_failed failed fun o' failed' => Or.inr ⟨failed', Reduced.refl e _, ?_⟩
      intro clean
      exact unclean () ⟨clean.1, mapError_ok.mpr clean.2.1.2⟩
  · refine after_failed failed fun o' failed' => Or.inr ⟨failed', Reduced.refl e _, ?_⟩
    intro clean
    exact unclean () ⟨clean.1, clean.2.1.1⟩

theorem keepPublished_settled {published : Directory} (gone : s.incoming = none) :
    Program.Ensures (keepPublished platform s published manifest) e
      (fun o s' => s' = s ∧ ((o = .ok () ∧ Settled platform manifest published) ∨
        ((∀ u, o ≠ .ok u) ∧ ¬(e.clean ∧ Settled platform manifest published)))) s := by
  unfold keepPublished
  refine (reading_ensures .readExisting _).bind ?_
  rintro o s' ⟨rfl, ⟨u, rfl, existing⟩ | ⟨failed, unclean⟩⟩
  · rw [Program.after_ok]
    refine (reading_ensures .verifyExisting _).bind ?_
    rintro o s'' ⟨rfl, ⟨u, rfl, verified⟩ | ⟨failed, unclean⟩⟩
    · rw [mapError_ok] at verified
      rw [Program.after_ok, Program.ensures_onlyIf, gone]
      refine ⟨fun present => absurd present (by simp), fun _ => ?_⟩
      exact ⟨rfl, Or.inl ⟨rfl, existing, verified⟩⟩
    · refine after_failed failed fun o' failed' => ⟨rfl, Or.inr ⟨failed', ?_⟩⟩
      intro clean
      exact unclean () ⟨clean.1, mapError_ok.mpr clean.2.2⟩
  · refine after_failed failed fun o' failed' => ⟨rfl, Or.inr ⟨failed', ?_⟩⟩
    intro clean
    exact unclean () ⟨clean.1, clean.2.1⟩

theorem syncing_ensures (label : ImportEffect) : Program.Ensures (importing label (pure ())) e
    (fun o s' => s' = s ∧ (o = .ok () ∨ ((∀ u, o ≠ .ok u) ∧ ¬e.clean))) s := by
  rw [ensures_importing]
  refine ⟨fun _ => ⟨rfl, Or.inl rfl⟩, fun d faulted => ?_, fun faulted => ?_⟩
  · exact ⟨rfl, Or.inr ⟨by simp, fun clean => not_clean faulted (by simp) ⟨clean, trivial⟩⟩⟩
  · exact ⟨rfl, Or.inr ⟨by simp, fun clean => not_clean faulted (by simp) ⟨clean, trivial⟩⟩⟩

/-- The branch of a snapshot that is not there either leaves the partial directory as it is or
has renamed it. -/
theorem publishIncoming_ensures {part : Directory} (held : s.incoming = some part) :
    Program.Ensures (publishIncoming platform s manifest) e
      (fun o s' => ((verifySnapshotFiles platform part manifest = .ok () ∧
          Fits platform manifest ∧
          s' = publish (rebind platform manifest s) manifest.snapshotId) ∧
          (o = .ok () ∨ ((∀ u, o ≠ .ok u) ∧ ¬e.clean))) ∨
        ((∀ u, o ≠ .ok u) ∧ (s'.snapshots = s.snapshots ∧ s'.incoming = s.incoming) ∧
          ¬(e.clean ∧ verifySnapshotFiles platform part manifest = .ok () ∧
            Fits platform manifest))) s := by
  have incoming : verifyIncoming platform s.incoming manifest =
      verifySnapshotFiles platform part manifest := by
    rw [verifyIncoming, held]
    rfl
  unfold publishIncoming
  refine (reading_ensures .verifyIncoming _).bind ?_
  rintro o s' ⟨rfl, ⟨u, rfl, verified⟩ | ⟨failed, unclean⟩⟩
  · rw [mapError_ok, incoming] at verified
    rw [Program.after_ok]
    refine writeBinding_ensures.bind ?_
    rintro o s'' (⟨rfl, fits, rfl⟩ | ⟨failed, rfl, unclean⟩)
    · rw [Program.after_ok]
      refine (syncing_ensures .ensureRoot).bind ?_
      rintro o s'' ⟨rfl, rfl | ⟨failed, unclean⟩⟩
      · rw [Program.after_ok]
        refine Program.Ensures.bind (P := fun o s'' =>
          (o = .ok () ∧ s'' = publish (rebind platform manifest s') manifest.snapshotId) ∨
            ((∀ u, o ≠ .ok u) ∧ s'' = rebind platform manifest s' ∧ ¬e.clean)) ?_ ?_
        · rw [ensures_importing]
          refine ⟨fun _ => Or.inl ⟨rfl, rfl⟩, fun d faulted => ?_, fun faulted => ?_⟩
          · exact Or.inr ⟨by simp, rfl,
              fun clean => not_clean faulted (by simp) ⟨clean, trivial⟩⟩
          · exact Or.inr ⟨by simp, rfl,
              fun clean => not_clean faulted (by simp) ⟨clean, trivial⟩⟩
        · rintro o s'' (⟨rfl, rfl⟩ | ⟨failed, rfl, unclean⟩)
          · rw [Program.after_ok]
            refine (syncing_ensures .syncPublished).mono ?_
            rintro o s'' ⟨rfl, ended⟩
            exact Or.inl ⟨⟨verified, fits, rfl⟩, ended⟩
          · exact after_failed failed fun o' failed' => Or.inr ⟨failed', ⟨rfl, rfl⟩,
              fun clean => unclean clean.1⟩
      · exact after_failed failed fun o' failed' => Or.inr ⟨failed', ⟨rfl, rfl⟩,
          fun clean => unclean clean.1⟩
    · exact after_failed failed fun o' failed' => Or.inr ⟨failed', ⟨rfl, rfl⟩,
        fun clean => unclean ⟨clean.1, clean.2.2⟩⟩
  · refine after_failed failed fun o' failed' => Or.inr ⟨failed', ⟨rfl, rfl⟩, ?_⟩
    intro clean
    refine unclean () ⟨clean.1, ?_⟩
    rw [mapError_ok, incoming]
    exact clean.2.1

end branches

/-! ## Attempts -/

/-- A partial directory that verifies against the manifest that the order asks for. -/
structure PartialImport (platform : BackupPlatform) (order : ImportOrder) (start : Transfer)
    (manifest : SnapshotManifest) (directory : Directory) : Prop where
  named : platform.isUuid order.transferOperationId = true
  held : start.incoming = some directory
  requested : requestedManifest platform order start = .ok manifest
  verified : verifySnapshotFiles platform directory manifest = .ok ()

/-- The states that attempts leave. -/
inductive Progress (platform : BackupPlatform) (start : Transfer) (manifest : SnapshotManifest)
    (directory : Directory) : Transfer → Prop
  | staged {s : Transfer} {part : Directory} (held : s.incoming = some part)
      (within : Part part directory) (kept : s.snapshots = start.snapshots)
      (first : start.snapshots manifest.snapshotId = none → part = directory) :
      Progress platform start manifest directory s
  | settled {s : Transfer} {published : Directory} (gone : s.incoming = none)
      (bound : s.binding = some (.file (platform.encode manifest)))
      (fits : Fits platform manifest)
      (found : s.snapshots manifest.snapshotId = some published)
      (same : Settled platform manifest published)
      (kept : ∀ name, name ≠ manifest.snapshotId → s.snapshots name = start.snapshots name)
      (origin : start.snapshots manifest.snapshotId = some published ∨
        (start.snapshots manifest.snapshotId = none ∧ published = directory)) :
      Progress platform start manifest directory s

/-- The entries that a repeated call reads. -/
def needed (manifest : SnapshotManifest) : List String :=
  immutableManifestFile :: manifest.files.map SnapshotFile.path

/-- The partial directory is gone or still has all that a repeated call reads. -/
def Whole (manifest : SnapshotManifest) (s : Transfer) : Prop :=
  ∀ part, s.incoming = some part → ∀ name ∈ needed manifest, part name ≠ none

/-- The snapshot is not there or is the one that is imported. -/
def Agreed (platform : BackupPlatform) (start : Transfer) (manifest : SnapshotManifest) : Prop :=
  ∀ published, start.snapshots manifest.snapshotId = some published →
    Settled platform manifest published

/-- No removal is cut off after it has taken an entry that a repeated call reads. -/
def Attempt.Spares (manifest : SnapshotManifest) (attempt : Attempt) : Prop :=
  attempt.faults .removeIncoming = .none ∨ ∀ name ∈ needed manifest, attempt.gone name = false

section attempts

variable {platform : BackupPlatform} {order : ImportOrder} {manifest : SnapshotManifest}
  {directory part : Directory} {e : Attempt} {start s s' : Transfer}

theorem PartialImport.loaded
    (imported : PartialImport platform order start manifest directory) :
    loadManifestAt platform (directory immutableManifestFile) = .ok (some manifest) ∧
      manifest.deploymentId = order.deploymentId ∧
      manifest.manifestSha256 = order.expectedManifestSha256 := by
  have source : (match start.incoming with
      | some directory => directory immutableManifestFile
      | none => start.binding) = directory immutableManifestFile := by rw [imported.held]
  exact (requestedManifest_ok source).mp imported.requested

theorem PartialImport.settled
    (imported : PartialImport platform order start manifest directory) :
    Settled platform manifest directory := by
  refine ⟨?_, imported.verified⟩
  simp only [existingManifest, imported.loaded.1, bind_ok, mapError_ok]
  exact ⟨some manifest, rfl, check_ok.mpr rfl⟩

/-- A part of the directory still has the manifest or nothing in its place. -/
theorem requested_part (imported : PartialImport platform order start manifest directory)
    (held : s.incoming = some part) (within : Part part directory) :
    requestedManifest platform order s =
      if part immutableManifestFile = none then
        .error ⟨"BACKUP_EXECUTION_FAILED", "backup import has no immutable manifest"⟩
      else .ok manifest := by
  have source : (match s.incoming with
      | some directory => directory immutableManifestFile
      | none => s.binding) = part immutableManifestFile := by rw [held]
  by_cases missing : part immutableManifestFile = none
  · rw [if_pos missing]
    exact requestedManifest_missing (source.trans missing)
  · rw [if_neg missing, requestedManifest_ok source,
      (within immutableManifestFile).resolve_left missing]
    exact imported.loaded

theorem requested_bound (imported : PartialImport platform order start manifest directory)
    (reads : platform.decode (platform.encode manifest) = .ok manifest)
    (gone : s.incoming = none) (bound : s.binding = some (.file (platform.encode manifest)))
    (fits : Fits platform manifest) : requestedManifest platform order s = .ok manifest := by
  have source : (match s.incoming with
      | some directory => directory immutableManifestFile
      | none => s.binding) = some (.file (platform.encode manifest)) := by rw [gone, bound]
  have loaded := imported.loaded
  obtain ⟨_, _, _, _, valid⟩ := loadManifestAt_ok.mp loaded.1
  exact (requestedManifest_ok source).mpr
    ⟨loadManifestAt_ok.mpr ⟨_, rfl, fits, reads, valid⟩, loaded.2⟩

theorem whole_part (imported : PartialImport platform order start manifest directory)
    (held : s.incoming = some part) (within : Part part directory) :
    Whole manifest s ↔ part immutableManifestFile ≠ none ∧
      verifySnapshotFiles platform part manifest = .ok () := by
  rw [verify_part within imported.verified]
  constructor
  · intro whole
    have present := whole part held
    exact ⟨present _ List.mem_cons_self, fun file member =>
      present _ (List.mem_cons_of_mem _ (List.mem_map_of_mem member))⟩
  · rintro ⟨present, files⟩ other same name member
    rw [held] at same
    cases same
    rcases List.mem_cons.mp member with rfl | listed
    · exact present
    · obtain ⟨file, chosen, rfl⟩ := List.mem_map.mp listed
      exact files file chosen

theorem whole_gone (gone : s.incoming = none) : Whole manifest s := by
  intro part held
  rw [gone] at held
  cases held

/-- What a removal leaves is a part again. -/
theorem reduced_progress (held : s.incoming = some part) (within : Part part directory)
    (kept : s.snapshots = start.snapshots)
    (occupied : start.snapshots manifest.snapshotId ≠ none) (reduced : Reduced e s s') :
    Progress platform start manifest directory s' ∧
      (e.Spares manifest → Whole manifest s → Whole manifest s') := by
  obtain ⟨snapshots, incoming | ⟨cut, incoming⟩⟩ := reduced
  · rw [held] at incoming
    refine ⟨.staged incoming within (snapshots.trans kept) (fun free => absurd free occupied),
      fun _ whole other same => ?_⟩
    rw [incoming] at same
    exact whole other (held.trans same)
  · rw [held] at incoming
    refine ⟨.staged incoming (dropEntries_part e.gone within) (snapshots.trans kept)
      (fun free => absurd free occupied), fun spares whole other same name member => ?_⟩
    rw [incoming] at same
    cases same
    have spared := spares.resolve_left cut name member
    show dropEntries part e.gone name ≠ none
    rw [dropEntries, spared]
    exact whole part held name member

/-- What a call that ends in a receipt needs. -/
def Ready (platform : BackupPlatform) (start s : Transfer) (manifest : SnapshotManifest) : Prop :=
  Whole manifest s ∧ Agreed platform start manifest ∧ Fits platform manifest

theorem staged_ensures (imported : PartialImport platform order start manifest directory)
    (held : s.incoming = some part) (within : Part part directory)
    (kept : s.snapshots = start.snapshots)
    (first : start.snapshots manifest.snapshotId = none → part = directory)
    (present : part immutableManifestFile ≠ none) :
    Program.Ensures (settleIncoming platform s manifest) e
      (fun o s' => Progress platform start manifest directory s' ∧
        (e.Spares manifest → Whole manifest s → Whole manifest s') ∧
        ((o = .ok () ∧ s'.incoming = none ∧ Ready platform start s manifest) ∨
          ((∀ u, o ≠ .ok u) ∧ ¬(e.clean ∧ Ready platform start s manifest)))) s := by
  have whole := whole_part imported held within
  unfold settleIncoming
  cases found : s.snapshots manifest.snapshotId with
  | some published =>
    have before : start.snapshots manifest.snapshotId = some published := by rw [← kept, found]
    have occupied : start.snapshots manifest.snapshotId ≠ none := by simp [before]
    refine (keepPublished_staged held).mono ?_
    rintro o s' (⟨rfl, same, verified, fits, rfl⟩ | ⟨failed, reduced, unclean⟩)
    · refine ⟨.settled rfl rfl fits found same (fun name _ => congrFun kept name)
        (Or.inl before), fun _ _ => whole_gone rfl, Or.inl ⟨rfl, rfl, ?_, ?_, fits⟩⟩
      · exact whole.mpr ⟨present, verified⟩
      · intro other held
        rw [before] at held
        cases held
        exact same
    · obtain ⟨progress, spared⟩ := reduced_progress held within kept occupied reduced
      refine ⟨progress, spared, Or.inr ⟨failed, fun ready => unclean ?_⟩⟩
      exact ⟨ready.1, ready.2.2.1 published before, (whole.mp ready.2.1).2, ready.2.2.2⟩
  | none =>
    have free : start.snapshots manifest.snapshotId = none := by rw [← kept, found]
    have agreed : Agreed platform start manifest := by
      intro other held
      rw [free] at held
      cases held
    have entire := first free
    refine (publishIncoming_ensures held).mono ?_
    rintro o s' (⟨⟨verified, fits, rfl⟩, ended⟩ | ⟨failed, ⟨snapshots, incoming⟩, unclean⟩)
    · have published : (publish (rebind platform manifest s) manifest.snapshotId).snapshots
          manifest.snapshotId = some part := (if_pos rfl).trans held
      have settled := imported.settled
      rw [← entire] at settled
      refine ⟨.settled rfl rfl fits published settled (fun name other => ?_)
        (Or.inr ⟨free, entire⟩), fun _ _ => whole_gone rfl, ?_⟩
      · rw [← kept]
        exact if_neg other
      · rcases ended with rfl | ⟨failed, unclean⟩
        · exact Or.inl ⟨rfl, rfl, whole.mpr ⟨present, verified⟩, agreed, fits⟩
        · exact Or.inr ⟨failed, fun ready => unclean ready.1⟩
    · rw [held] at incoming
      refine ⟨.staged incoming within (snapshots.trans kept) first, fun _ whole other same => ?_,
        Or.inr ⟨failed, fun ready => unclean ?_⟩⟩
      · rw [incoming] at same
        exact whole other (held.trans same)
      · exact ⟨ready.1, (whole.mp ready.2.1).2, ready.2.2.2⟩

theorem settled_ensures {published : Directory} (gone : s.incoming = none)
    (bound : s.binding = some (.file (platform.encode manifest))) (fits : Fits platform manifest)
    (found : s.snapshots manifest.snapshotId = some published)
    (same : Settled platform manifest published)
    (kept : ∀ name, name ≠ manifest.snapshotId → s.snapshots name = start.snapshots name)
    (origin : start.snapshots manifest.snapshotId = some published ∨
      (start.snapshots manifest.snapshotId = none ∧ published = directory)) :
    Program.Ensures (settleIncoming platform s manifest) e
      (fun o s' => Progress platform start manifest directory s' ∧
        (e.Spares manifest → Whole manifest s → Whole manifest s') ∧
        ((o = .ok () ∧ s'.incoming = none ∧ Ready platform start s manifest) ∨
          ((∀ u, o ≠ .ok u) ∧ ¬(e.clean ∧ Ready platform start s manifest)))) s := by
  have agreed : Agreed platform start manifest := by
    intro other held
    rcases origin with before | ⟨free, _⟩
    · rw [before] at held
      cases held
      exact same
    · rw [free] at held
      cases held
  rw [settleIncoming, found]
  refine (keepPublished_settled gone).mono ?_
  rintro o s' ⟨rfl, ended⟩
  refine ⟨.settled gone bound fits found same kept origin, fun _ _ => whole_gone gone, ?_⟩
  rcases ended with ⟨rfl, _⟩ | ⟨failed, unclean⟩
  · exact Or.inl ⟨rfl, gone, whole_gone gone, agreed, fits⟩
  · exact Or.inr ⟨failed, fun ready => unclean ⟨ready.1, same⟩⟩

theorem acknowledge_ensures : Program.Ensures (do
      importing .syncSnapshots (pure ())
      importing .syncTransfers (pure ())
      pure (receiptOf order manifest (← Program.environment).now)) e
    (fun o s' => s' = s ∧ (o = .ok (receiptOf order manifest e.now) ∨
      ((∀ receipt, o ≠ .ok receipt) ∧ ¬e.clean))) s := by
  refine (syncing_ensures .syncSnapshots).bind ?_
  rintro o s' ⟨rfl, rfl | ⟨failed, unclean⟩⟩
  · rw [Program.after_ok]
    refine (syncing_ensures .syncTransfers).bind ?_
    rintro o s'' ⟨rfl, rfl | ⟨failed, unclean⟩⟩
    · exact ⟨rfl, Or.inl rfl⟩
    · exact after_failed failed fun o' failed' => ⟨rfl, Or.inr ⟨failed', unclean⟩⟩
  · exact after_failed failed fun o' failed' => ⟨rfl, Or.inr ⟨failed', unclean⟩⟩

/-- One attempt, whatever becomes of it. -/
theorem attempt_ensures (imported : PartialImport platform order start manifest directory)
    (reads : platform.decode (platform.encode manifest) = .ok manifest)
    (progress : Progress platform start manifest directory s) :
    Program.Ensures (finalizeImport platform order) e
      (fun o s' => Progress platform start manifest directory s' ∧
        (e.Spares manifest → Whole manifest s → Whole manifest s') ∧
        ((o = .ok (receiptOf order manifest e.now) ∧ s'.incoming = none ∧
            Ready platform start s manifest) ∨
          ((∀ receipt, o ≠ .ok receipt) ∧ ¬(e.clean ∧ Ready platform start s manifest)))) s := by
  unfold finalizeImport
  rw [Program.ensures_bind, Program.ensures_require]
  refine ⟨fun _ => ?_, fun unnamed => absurd imported.named unnamed⟩
  rw [Program.after_ok, Program.ensures_bind, Program.ensures_get, Program.after_ok]
  refine (reading_ensures .readManifest _).bind ?_
  rintro o s' ⟨rfl, ⟨found, rfl, requested⟩ | ⟨failed, unclean⟩⟩
  · rw [Program.after_ok]
    have branch : found = manifest ∧ Program.Ensures (settleIncoming platform s' manifest) e
        (fun o s'' => Progress platform start manifest directory s'' ∧
          (e.Spares manifest → Whole manifest s' → Whole manifest s'') ∧
          ((o = .ok () ∧ s''.incoming = none ∧ Ready platform start s' manifest) ∨
            ((∀ u, o ≠ .ok u) ∧ ¬(e.clean ∧ Ready platform start s' manifest)))) s' := by
      cases progress with
      | staged held within kept first =>
        rw [requested_part imported held within] at requested
        split_ifs at requested with missing
        cases requested
        exact ⟨rfl, staged_ensures imported held within kept first missing⟩
      | settled gone bound fits found same kept origin =>
        rw [requested_bound imported reads gone bound fits] at requested
        cases requested
        exact ⟨rfl, settled_ensures gone bound fits found same kept origin⟩
    obtain ⟨rfl, branch⟩ := branch
    refine branch.bind ?_
    rintro o s'' ⟨progress, spared, ⟨rfl, gone, ready⟩ | ⟨failed, unready⟩⟩
    · rw [Program.after_ok]
      refine acknowledge_ensures.mono ?_
      rintro o final ⟨rfl, rfl | ⟨failed, unclean⟩⟩
      · exact ⟨progress, spared, Or.inl ⟨rfl, gone, ready⟩⟩
      · exact ⟨progress, spared, Or.inr ⟨failed, fun ready => unclean ready.1⟩⟩
    · exact after_failed failed fun o' failed' => ⟨progress, spared, Or.inr ⟨failed', unready⟩⟩
  · refine after_failed failed fun o' failed' =>
      ⟨progress, fun _ whole => whole, Or.inr ⟨failed', fun ready => unclean manifest ?_⟩⟩
    refine ⟨ready.1, ?_⟩
    cases progress with
    | staged held within kept first =>
      rw [requested_part imported held within,
        if_neg ((whole_part imported held within).mp ready.2.1).1]
    | settled gone bound fits found same kept origin =>
      exact requested_bound imported reads gone bound fits

end attempts

/-! ## Runs -/

/-- Calls for one order, each of them cut off, refused or completed. -/
def Reaches (platform : BackupPlatform) (order : ImportOrder) (admitted : Attempt → Prop) :
    Transfer → Transfer → Prop :=
  Relation.ReflTransGen fun s s' => ∃ e, admitted e ∧ s' = (finalizeImport platform order e s).2

/-- What one call does from a state that other calls have left. -/
structure Resumable (platform : BackupPlatform) (order : ImportOrder) (start : Transfer)
    (manifest : SnapshotManifest) (directory : Directory) (s : Transfer) : Prop where
  kept : ∀ name published, start.snapshots name = some published →
    s.snapshots name = some published
  visible : ∀ name published, s.snapshots name = some published →
    start.snapshots name = some published ∨
      (name = manifest.snapshotId ∧ published = directory)
  resumed : ∀ e : Attempt, e.clean →
    ((∃ receipt, (finalizeImport platform order e s).1 = .ok receipt) ↔
      Ready platform start s manifest)
  acknowledged : ∀ e receipt, (finalizeImport platform order e s).1 = .ok receipt →
    receipt = receiptOf order manifest e.now ∧
      receipt.manifestSha256 = order.expectedManifestSha256 ∧
      ∃ published, (finalizeImport platform order e s).2.snapshots manifest.snapshotId =
          some published ∧ Settled platform manifest published ∧
        (start.snapshots manifest.snapshotId = none → published = directory)

section runs

variable {platform : BackupPlatform} {order : ImportOrder} {manifest : SnapshotManifest}
  {directory : Directory} {start s : Transfer}

theorem reaches_progress (imported : PartialImport platform order start manifest directory)
    (reads : platform.decode (platform.encode manifest) = .ok manifest)
    {admitted : Attempt → Prop} (reached : Reaches platform order admitted start s) :
    Progress platform start manifest directory s := by
  induction reached with
  | refl => exact .staged imported.held (fun name => Or.inr rfl) rfl (fun _ => rfl)
  | tail _ attempt ih =>
    obtain ⟨e, _, rfl⟩ := attempt
    exact (attempt_ensures imported reads ih).1

theorem progress_kept (progress : Progress platform start manifest directory s)
    {name : String} {published : Directory} (before : start.snapshots name = some published) :
    s.snapshots name = some published := by
  cases progress with
  | staged _ _ kept _ => rw [kept, before]
  | @settled other _ _ _ found _ kept origin =>
    by_cases own : name = manifest.snapshotId
    · rw [own] at before ⊢
      rcases origin with same | ⟨free, _⟩
      · rw [found, ← same, before]
      · rw [free] at before
        cases before
    · rw [kept name own, before]

theorem progress_visible (progress : Progress platform start manifest directory s)
    {name : String} {published : Directory} (held : s.snapshots name = some published) :
    start.snapshots name = some published ∨
      (name = manifest.snapshotId ∧ published = directory) := by
  cases progress with
  | staged _ _ kept _ =>
    rw [← kept]
    exact Or.inl held
  | @settled other _ _ _ found _ kept origin =>
    by_cases own : name = manifest.snapshotId
    · rw [own, found] at held
      cases held
      rcases origin with same | ⟨_, entire⟩
      · rw [own]
        exact Or.inl same
      · exact Or.inr ⟨own, entire⟩
    · rw [← kept name own]
      exact Or.inl held

theorem progress_settled (progress : Progress platform start manifest directory s)
    (gone : s.incoming = none) :
    ∃ published, s.snapshots manifest.snapshotId = some published ∧
      Settled platform manifest published ∧
      (start.snapshots manifest.snapshotId = none → published = directory) := by
  cases progress with
  | staged held _ _ _ =>
    rw [gone] at held
    cases held
  | @settled published _ _ _ found same _ origin =>
    refine ⟨published, found, same, fun free => ?_⟩
    rcases origin with before | ⟨_, entire⟩
    · rw [free] at before
      cases before
    · exact entire

theorem progress_resumable (imported : PartialImport platform order start manifest directory)
    (reads : platform.decode (platform.encode manifest) = .ok manifest)
    (progress : Progress platform start manifest directory s) :
    Resumable platform order start manifest directory s where
  kept _ _ before := progress_kept progress before
  visible _ _ held := progress_visible progress held
  resumed e clean := by
    obtain ⟨_, _, ⟨answered, _, ready⟩ | ⟨failed, unready⟩⟩ :=
      @attempt_ensures _ _ _ _ e _ _ imported reads progress
    · exact iff_of_true ⟨_, answered⟩ ready
    · constructor
      · rintro ⟨receipt, answered⟩
        exact absurd answered (failed receipt)
      · intro ready
        exact absurd ⟨clean, ready⟩ unready
  acknowledged e receipt answered := by
    obtain ⟨after, _, ⟨same, gone, _⟩ | ⟨failed, _⟩⟩ :=
      @attempt_ensures _ _ _ _ e _ _ imported reads progress
    · rw [same] at answered
      cases answered
      exact ⟨rfl, imported.loaded.2.2, progress_settled after gone⟩
    · exact absurd answered (failed receipt)

theorem reaches_whole (imported : PartialImport platform order start manifest directory)
    (reads : platform.decode (platform.encode manifest) = .ok manifest)
    (reached : Reaches platform order (Attempt.Spares manifest) start s) :
    Whole manifest s := by
  induction reached with
  | refl =>
    have loaded := (loadManifestAt_ok.mp imported.loaded.1)
    obtain ⟨bytes, present, _⟩ := loaded
    refine (whole_part imported imported.held fun name => Or.inr rfl).mpr
      ⟨by simp [present], imported.verified⟩
  | tail earlier attempt ih =>
    obtain ⟨e, spares, rfl⟩ := attempt
    exact (attempt_ensures imported reads (reaches_progress imported reads earlier)).2.1 spares ih

/-- After any calls a call without a fault ends in a receipt exactly when the partial directory
is gone or still whole, as it is unless a removal was cut off. -/
theorem import_resumes_iff (imported : PartialImport platform order start manifest directory)
    (reads : platform.decode (platform.encode manifest) = .ok manifest) :
    (∀ s, Reaches platform order (fun _ => True) start s →
      Resumable platform order start manifest directory s) ∧
    (∀ s, Reaches platform order (Attempt.Spares manifest) start s → Whole manifest s) := by
  constructor
  · intro s reached
    exact progress_resumable imported reads (reaches_progress imported reads reached)
  · intro s reached
    exact reaches_whole imported reads reached

end runs

/-! ## A removal that is cut off -/

def emptySha256 : String := "e3b0c44298fc1c149afbf4c8996fb92427ae41e4649b934ca495991b7852b855"
def dumpSha256 : String := "18ac3e7343f016890c510e93f935261169d9e3f565436429830faf0934f4f8e4"
def archiveSha256 : String := "e3b98a4da31a127d4bde6e43033f66ba274cab0eb7eb1c70ec41402bf6273dd8"

def sampleManifest : SnapshotManifest where
  schema := 5
  deploymentId := "auth"
  snapshotId := "0190a0b0-0000-7000-8000-000000000002"
  createdAt := 0
  runtimeArtifact := .oci "auth" ("sha256:" ++ emptySha256)
  release := ⟨"1.0.0"⟩
  rollbackPolicy := none
  configSchema := "v1"
  files := [⟨"postgresql.dump", 1, dumpSha256⟩, ⟨"deployment.tar", 1, archiveSha256⟩]
  archiveFiles := [⟨"sentinel", 0, emptySha256⟩]
  databaseSentinelSha256 := emptySha256
  mfaKeySha256 := emptySha256
  runtimeInstanceKeyId := "key"
  oidcSigningKeyIds := ["key"]
  manifestSha256 := "6f914b6a036a4da34624237f37032b357857ec37764fc981b01934492b45fdba"

def platformReading (decode : Bytes → Except String SnapshotManifest) : BackupPlatform where
  isUuid text := text ∈ ["0190a0b0-0000-7000-8000-000000000001",
    "0190a0b0-0000-7000-8000-000000000002"]
  semver _ := .error "unexpected character"
  decode := decode
  timeText _ := "1970-01-01T00:00:00Z"
  computedSha256 _ := "6f914b6a036a4da34624237f37032b357857ec37764fc981b01934492b45fdba"
  sha256 bytes := if bytes = [100] then dumpSha256 else if bytes = [116] then archiveSha256
    else emptySha256

def sampleDocument : Bytes := (platformReading fun _ => .error "").encode sampleManifest

/-- A parser that meets one document. -/
def samplePlatform : BackupPlatform :=
  platformReading fun bytes => if bytes = sampleDocument then .ok sampleManifest
    else .error "expected value at line 1 column 1"

def sampleOrder : ImportOrder where
  deploymentId := "auth"
  transferOperationId := "0190a0b0-0000-7000-8000-000000000001"
  expectedManifestSha256 := "6f914b6a036a4da34624237f37032b357857ec37764fc981b01934492b45fdba"
  sourceHostId := "0190a0b0-0000-7000-8000-000000000003"
  destinationHostId := "0190a0b0-0000-7000-8000-000000000004"

def sampleDirectory : Directory := fun name =>
  if name = immutableManifestFile then some (.file sampleDocument)
  else if name = "postgresql.dump" then some (.file [100])
  else if name = "deployment.tar" then some (.file [116])
  else none

/-- The snapshot was imported before, under another operation. -/
def sampleTransfer : Transfer where
  incoming := some sampleDirectory
  binding := none
  snapshots name := if name = sampleManifest.snapshotId then some sampleDirectory else none

theorem sample_decode : samplePlatform.decode sampleDocument = .ok sampleManifest := by
  have reading : samplePlatform.decode = fun bytes => if bytes = sampleDocument then
      .ok sampleManifest else .error "expected value at line 1 column 1" := rfl
  rw [reading]
  exact if_pos rfl

theorem sample_reads : samplePlatform.decode (samplePlatform.encode sampleManifest) =
    .ok sampleManifest := by
  have same : samplePlatform.encode sampleManifest = sampleDocument := by
    unfold sampleDocument BackupPlatform.encode samplePlatform platformReading
    rfl
  rw [same, sample_decode]

theorem sampleDirectory_manifest :
    sampleDirectory immutableManifestFile = some (.file sampleDocument) := by
  unfold sampleDirectory
  exact if_pos rfl

theorem digest_short (depth : ℕ) : ∀ text ∈ [emptySha256, dumpSha256, archiveSha256],
    (JsonText.string text depth).utf8ByteSize ≤ 386 := by
  have short : ∀ text ∈ [emptySha256, dumpSha256, archiveSha256],
      6 * text.utf8ByteSize + 2 ≤ 386 := by decide
  exact fun text member => JsonText.string_size_le (short text member) depth

theorem sampleFile_short (file : SnapshotFile) (path : 6 * file.path.utf8ByteSize + 2 ≤ 200)
    (size : file.size < 2) (digest : (JsonText.string file.sha256 3).utf8ByteSize ≤ 386) :
    (file.printer 2).utf8ByteSize ≤ 2000 := by
  have names : ∀ label ∈ ["path", "size", "sha256"], label.utf8ByteSize ≤ 40 := by decide
  have digit : ∀ n < 2, (JsonText.number n 3).utf8ByteSize ≤ 1 := by decide
  refine Nat.le_trans (JsonText.size_object_le 40 [200, 1, 386] names ?_) ?_
  · exact .cons (JsonText.string_size_le path 3) (.cons (digit _ size) (.cons digest .nil))
  · show 4 * 2 + 6 + ([200, 1, 386].sum + 3 * (6 * 40 + 2 * 2 + 8)) ≤ 2000
    decide

theorem sampleArtifact_short :
    (artifactPrinter sampleManifest.runtimeArtifact 1).utf8ByteSize ≤ 2000 := by
  refine Nat.le_trans (JsonText.size_object_le 40 [30, 30, 430] (by decide) ?_) (by decide)
  exact .cons (JsonText.string_size_le (by decide) 2)
    (.cons (JsonText.string_size_le (by decide) 2)
      (.cons (JsonText.string_size_le (by decide) 2) .nil))

theorem sample_fits : Fits samplePlatform sampleManifest := by
  have digests := fun depth => digest_short depth
  simp only [List.forall_mem_cons] at digests
  have files : (JsonText.array (sampleManifest.files.map SnapshotFile.printer) 1).utf8ByteSize ≤
      5000 := by
    refine Nat.le_trans (JsonText.size_array_le [2000, 2000] ?_) (by decide)
    exact .cons (sampleFile_short _ (by decide) (by decide) (digests 3).2.1)
      (.cons (sampleFile_short _ (by decide) (by decide) (digests 3).2.2.1) .nil)
  have archived : (JsonText.array (sampleManifest.archiveFiles.map
      SnapshotFile.printer) 1).utf8ByteSize ≤ 5000 := by
    refine Nat.le_trans (JsonText.size_array_le [2000] ?_) (by decide)
    exact .cons (sampleFile_short _ (by decide) (by decide) (digests 3).1) .nil
  have keys : (JsonText.array (sampleManifest.oidcSigningKeyIds.map
      JsonText.string) 1).utf8ByteSize ≤ 100 := by
    refine Nat.le_trans (JsonText.size_array_le [20] ?_) (by decide)
    exact .cons (JsonText.string_size_le (by decide) 2) .nil
  show (sampleManifest.printer samplePlatform.timeText 0).utf8ByteSize ≤ maxBackupEvidenceBytes
  refine Nat.le_trans (JsonText.size_object_le 40 [1, 26, 218, 122, 2000, 200, 14, 5000, 5000, 386,
    386, 20, 100, 386] ?_ ?_) ?_
  · decide
  · refine .cons (by decide) <| .cons (JsonText.string_size_le (by decide) 1) <|
      .cons (JsonText.string_size_le (by decide) 1) <|
      .cons (JsonText.string_size_le (by decide) 1) <| .cons sampleArtifact_short <|
      .cons (by decide) <| .cons (JsonText.string_size_le (by decide) 1) <| .cons files <|
      .cons archived <| .cons (digests 1).1 <| .cons (digests 1).1 <|
      .cons (JsonText.string_size_le (by decide) 1) <| .cons keys <|
      .cons (JsonText.string_size_le (by decide) 1) .nil
  · decide

theorem sample_imported : PartialImport samplePlatform sampleOrder sampleTransfer sampleManifest
    sampleDirectory where
  named := by
    decide
  held := rfl
  requested := by
    have source : (match sampleTransfer.incoming with
        | some directory => directory immutableManifestFile
        | none => sampleTransfer.binding) = some (.file sampleDocument) :=
      sampleDirectory_manifest
    refine (requestedManifest_ok source).mpr ⟨loadManifestAt_ok.mpr ?_, rfl, rfl⟩
    refine ⟨sampleDocument, rfl, sample_fits, sample_decode, ?_⟩
    decide
  verified := by decide

/-- The removal is lost after it has taken the manifest. -/
def cutRemoval : Attempt where
  faults label := if label = .removeIncoming then .crash else .none
  gone name := name = immutableManifestFile
  now := 0

def cutTransfer : Transfer :=
  (finalizeImport samplePlatform sampleOrder cutRemoval sampleTransfer).2

theorem sample_import_resumes :
    (∀ s, Reaches samplePlatform sampleOrder (fun _ => True) sampleTransfer s →
      Resumable samplePlatform sampleOrder sampleTransfer sampleManifest sampleDirectory s) ∧
    (∀ s, Reaches samplePlatform sampleOrder (Attempt.Spares sampleManifest) sampleTransfer s →
      Whole sampleManifest s) :=
  import_resumes_iff sample_imported sample_reads

theorem sample_found :
    sampleTransfer.snapshots sampleManifest.snapshotId = some sampleDirectory := by
  show (if sampleManifest.snapshotId = sampleManifest.snapshotId then some sampleDirectory
    else none) = some sampleDirectory
  exact if_pos rfl

theorem sample_agreed : Agreed samplePlatform sampleTransfer sampleManifest := by
  intro published held
  rw [sample_found] at held
  cases held
  exact sample_imported.settled

section cut

variable {platform : BackupPlatform} {order : ImportOrder} {manifest : SnapshotManifest}
  {part published : Directory} {e : Attempt} {s s' : Transfer}

theorem run_reading {label : ImportEffect} {result : Except Failure α} {a : α}
    (clean : e.faults label = .none) (passed : result = .ok a) :
    importing label (Program.ofExcept result) e s = (.ok a, s) := by
  rw [importing, Program.effect]
  simp only [clean, passed, Program.run_ofExcept, Outcome.ofExcept_ok]

/-- A removal that is cut off in a call without another fault. -/
theorem removal_cut (named : platform.isUuid order.transferOperationId = true)
    (requested : requestedManifest platform order s = .ok manifest)
    (held : s.incoming = some part) (found : s.snapshots manifest.snapshotId = some published)
    (settled : Settled platform manifest published)
    (verified : verifySnapshotFiles platform part manifest = .ok ())
    (fits : Fits platform manifest)
    (clean : ∀ label, label ≠ .removeIncoming → e.faults label = .none)
    (cut : e.faults .removeIncoming = .crash) :
    finalizeImport platform order e s = (.crashed,
      { rebind platform manifest s with incoming := some (dropEntries part e.gone) }) := by
  have incoming : verifyIncoming platform s.incoming manifest = .ok () := by
    rw [verifyIncoming, held]
    exact verified
  have written : writeBinding platform manifest e s = (.ok (), rebind platform manifest s) := by
    rw [writeBinding, importing, Program.effect, clean _ (by decide)]
    have small : (platform.encode manifest).length ≤ maxBackupEvidenceBytes := fits
    exact Program.run_bind_ok (by rw [Program.run_require, if_pos small])
  have removed : removeIncoming e (rebind platform manifest s) = (.crashed,
      { rebind platform manifest s with incoming := some (dropEntries part e.gone) }) := by
    simp only [removeIncoming, cut, rebind, held, Option.map_some]
  have kept : keepPublished platform s published manifest e s = (.crashed,
      { rebind platform manifest s with incoming := some (dropEntries part e.gone) }) := by
    unfold keepPublished checking
    rw [Program.run_bind_ok (run_reading (clean _ (by decide)) settled.1)]
    rw [Program.run_bind_ok (run_reading (clean _ (by decide)) (mapError_ok.mpr settled.2))]
    rw [Program.run_onlyIf_true _ (by rw [held]; rfl)]
    rw [Program.run_bind_ok (run_reading (clean _ (by decide)) (mapError_ok.mpr incoming))]
    rw [Program.run_bind_ok written, removed]
  rw [finalizeImport, Program.run_bind_ok (by rw [Program.run_require, if_pos named])]
  rw [Program.run_bind_ok Program.run_get]
  rw [Program.run_bind_ok (run_reading (clean _ (by decide)) requested)]
  refine Program.run_bind_crashed ?_
  rw [settleIncoming, found]
  exact kept

end cut

theorem cut_in_removal :
    finalizeImport samplePlatform sampleOrder cutRemoval sampleTransfer = (.crashed,
      { rebind samplePlatform sampleManifest sampleTransfer with
        incoming := some (dropEntries sampleDirectory cutRemoval.gone) }) := by
  refine removal_cut sample_imported.named sample_imported.requested rfl sample_found
    sample_imported.settled sample_imported.verified sample_fits ?_ rfl
  intro label other
  exact if_neg other

/-- A call without a manifest to read changes nothing. -/
theorem refused_ensures {platform : BackupPlatform} {order : ImportOrder} {e : Attempt}
    {s : Transfer} {failure : Failure}
    (refused : requestedManifest platform order s = .error failure) :
    Program.Ensures (finalizeImport platform order) e
      (fun o s' => s' = s ∧ ∀ receipt, o ≠ .ok receipt) s := by
  unfold finalizeImport
  rw [Program.ensures_bind, Program.ensures_require]
  constructor
  · intro _
    rw [Program.after_ok, Program.ensures_bind, Program.ensures_get, Program.after_ok]
    refine (reading_ensures .readManifest _).bind ?_
    rintro o s' ⟨rfl, ⟨found, _, accepted⟩ | ⟨failed, _⟩⟩
    · rw [refused] at accepted
      cases accepted
    · exact after_failed failed fun o' failed' => ⟨rfl, failed'⟩
  · intro _
    exact ⟨rfl, by simp⟩

theorem cut_removal_not_resumed :
    PartialImport samplePlatform sampleOrder sampleTransfer sampleManifest sampleDirectory ∧
    Agreed samplePlatform sampleTransfer sampleManifest ∧
    (finalizeImport samplePlatform sampleOrder cutRemoval sampleTransfer).1 = .crashed ∧
    ∀ s, Reaches samplePlatform sampleOrder (fun _ => True) cutTransfer s →
      ∀ e receipt, (finalizeImport samplePlatform sampleOrder e s).1 ≠ .ok receipt := by
  have held : cutTransfer.incoming = some (dropEntries sampleDirectory cutRemoval.gone) := by
    rw [cutTransfer, cut_in_removal]
  have missing : dropEntries sampleDirectory cutRemoval.gone immutableManifestFile = none :=
    if_pos (by decide)
  have refused := requested_part sample_imported held
    (dropEntries_part cutRemoval.gone fun name => Or.inr rfl)
  rw [if_pos missing] at refused
  refine ⟨sample_imported, sample_agreed, by rw [cut_in_removal], ?_⟩
  intro s reached
  have stays : s = cutTransfer := by
    induction reached with
    | refl => rfl
    | tail _ attempt ih =>
      obtain ⟨e, _, rfl⟩ := attempt
      rw [ih]
      exact (refused_ensures refused).1
  intro e
  rw [stays]
  exact (refused_ensures refused).2

end NazoAuthCtl.SnapshotImport
