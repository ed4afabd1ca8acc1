import NazoAuthCtl.ArchiveRoundTrip
import NazoAuthCtl.FaultProgram

/-!
# The extraction of a recovery

The extraction of a recovery is made beside its destination and renamed to it once it is
compared and synced. A call finds what earlier calls have left: a destination that holds what is
expected is kept, every other one is removed. A removal and an extraction that are cut off leave
a part of their tree behind.
-/

set_option autoImplicit false
set_option linter.all false

namespace NazoAuthCtl.RecoveryExtraction

open Checks DirectoryTrees DeploymentArchive ArchiveRoundTrip FaultProgram
open SnapshotManifests (Bytes SnapshotFile)

inductive ExtractionEffect where
  | inspectDestination
  | removeDestination
  | inspectPartial
  | removePartial
  | createPartial
  | extract
  | sync
  | rename
  | syncParent
  deriving DecidableEq, Repr

/-- A directory on a machine. -/
structure Directory where
  place : Place Bytes
  rooted : ([], .directory) ∈ nodes [] place.tree

structure Extraction where
  destination : Option (Place Bytes)
  /-- `with_extension("partial")` of the destination. -/
  beside : Option (Place Bytes)

/-- One call of `prepare_recovery_archive`. -/
structure Attempt where
  faults : ExtractionEffect → Fault String
  /-- The paths that are gone when the removal of the destination fails or is lost. -/
  gone : List FileName → Bool
  /-- What is beside the destination when its removal or the extraction fails or is lost. -/
  left : Option Directory

abbrev Extracting := Program Attempt Extraction String

/-- An effect that leaves something behind when it fails or is lost. -/
def touching {α : Type} (label : ExtractionEffect) (torn : Attempt → Extraction → Extraction)
    (body : Extracting α) : Extracting α := fun e s =>
  match e.faults label with
  | .none => body e s
  | .fail detail => (.error detail, torn e s)
  | .crash => (.crashed, torn e s)

def steady {α : Type} (label : ExtractionEffect) (body : Extracting α) : Extracting α :=
  touching label (fun _ s => s) body

def prunedPlace (gone : List FileName → Bool) (place : Place Bytes) : Place Bytes :=
  ⟨prune gone [] place.tree, distinct_prune gone [] place.tree place.distinct⟩

def tornDestination (e : Attempt) (s : Extraction) : Extraction :=
  { s with destination := if e.gone [] then none else s.destination.map (prunedPlace e.gone) }

def tornBeside (e : Attempt) (s : Extraction) : Extraction :=
  { s with beside := e.left.map (·.place) }

section Source

variable (packages : Packages) (tar : TarCrate) (archive : Bytes) (expected : List SnapshotFile)

/-- What `symlink_metadata` says of a place. -/
def isRealDirectory (place : Place Bytes) : Bool :=
  match place.tree with
  | .directory _ => true
  | _ => false

/-- `visit_directory_tree` with a visitor that syncs. -/
def syncNode (_ : List FileName) : Node Bytes → Except String (List Unit)
  | .special _ => .error "data tree contains a special file or hard link"
  | _ => .ok []

def extractBeside : Extracting Unit := fun e s =>
  match s.beside with
  | none => (.error "No such file or directory (os error 2)", s)
  | some place =>
    let (result, after) := extractDeploymentArchive packages tar archive place expected
    Program.ofExcept result e { s with beside := some after }

def syncTree : Tree FileName Bytes → Except String (List Unit)
  | .directory children => walk syncNode [] (.directory children)
  | _ => .error "Not a directory (os error 20)"

def syncBeside : Extracting Unit := do
  let s ← Program.get
  match s.beside with
  | none => Program.throw "No such file or directory (os error 2)"
  | some place => do
    let _ ← Program.ofExcept (syncTree place.tree)
    pure ()

/-- A partial extraction is removed, whatever is in it. -/
def clearBeside : Extracting Unit := do
  steady .inspectPartial (pure ())
  let s ← Program.get
  match s.beside with
  | none => pure ()
  | some place => do
    Program.require (isRealDirectory place = true) "partial extraction must be a real directory"
    touching .removePartial tornBeside (Program.modify fun s => { s with beside := none })

/-- What `prepare_recovery_archive` does once there is no destination. -/
def extractAgain : Extracting Unit := do
  clearBeside
  steady .createPartial (Program.modify fun s => { s with beside := some emptyDirectory })
  touching .extract tornBeside (extractBeside packages tar archive expected)
  steady .sync syncBeside
  steady .rename (Program.modify fun s => { destination := s.beside, beside := none })
  steady .syncParent (pure ())

def prepareRecoveryArchive : Extracting Unit := do
  steady .inspectDestination (pure ())
  let s ← Program.get
  match s.destination with
  | none => extractAgain packages tar archive expected
  | some place => do
    Program.require (isRealDirectory place = true) "recovery extraction must be a real directory"
    let found ← Program.ofExcept (collectRegularFiles packages place.tree)
    if sortByPath found = sortByPath expected then pure ()
    else do
      touching .removeDestination tornDestination
        (Program.modify fun s => { s with destination := none })
      extractAgain packages tar archive expected

end Source

/-! ## What a call finds -/

theorem isRealDirectory_of_rooted {place : Place Bytes}
    (rooted : ([], .directory) ∈ nodes [] place.tree) : isRealDirectory place = true := by
  obtain ⟨children, same⟩ := directory_of_root rooted
  rw [isRealDirectory, same]

/-- A directory of files that has no whole sentinel of a size. -/
structure Remains (size : ℕ) (place : Place Bytes) : Prop where
  rooted : ([], .directory) ∈ nodes [] place.tree
  fine : ∀ entry ∈ nodes [] place.tree, (entry.1 ≠ [] ∨ entry.2 = .directory) ∧
    Plain entry.2 ∧ Short entry.2
  lacks : ∀ content, ([snapshotSentinelFile], .file content) ∈ nodes [] place.tree →
    content.length ≠ size

theorem Remains.pruned {size : ℕ} {place : Place Bytes} (remains : Remains size place)
    (gone : List FileName → Bool) : Remains size (prunedPlace gone place) where
  rooted := prune_root gone remains.rooted
  fine entry member := remains.fine entry ((prune_nodes gone [] place.tree).subset member)
  lacks content member := remains.lacks content ((prune_nodes gone [] place.tree).subset member)

/-- The destination is absent, whole, or lacks its sentinel, and both places are directories. -/
structure Resumable (entries : List (List FileName × Node Bytes)) (size : ℕ) (s : Extraction) :
    Prop where
  destination : ∀ place, s.destination = some place → Complete entries place ∨ Remains size place
  beside : ∀ place, s.beside = some place → ([], .directory) ∈ nodes [] place.tree

section Calls

variable {packages : Packages} {tar : TarCrate} {archive : Bytes} {files : List SnapshotFile}
  {entries : List (List FileName × Node Bytes)} {sentinel : Bytes} {e : Attempt} {s : Extraction}
  {α : Type}

theorem complete_rooted {place : Place Bytes} (complete : Complete entries place) :
    ([], .directory) ∈ nodes [] place.tree :=
  (complete root).mpr (List.mem_append_left _ (List.mem_singleton_self _))

theorem named_of_sentinel {file : SnapshotFile} {entry : List FileName × Node Bytes}
    (below : entry.1 ≠ []) (found : named packages entry = some file)
    (path : file.path = pathText [snapshotSentinelFile]) :
    ∃ content, entry = ([snapshotSentinelFile], .file content) ∧ file.size = content.length := by
  rw [named_path found] at path
  have same := pathText_injective below (List.cons_ne_nil _ _) path
  obtain ⟨at', node⟩ := entry
  cases node with
  | file content =>
    cases found
    cases same
    exact ⟨content, rfl, rfl⟩
  | directory => cases found
  | special kind => cases found

/-- What lacks the sentinel is not taken for the whole. -/
theorem remains_differs (held : ArchiveOf packages tar archive entries files)
    (last : ([snapshotSentinelFile], .file sentinel) ∈ entries) {place : Place Bytes}
    (remains : Remains sentinel.length place) :
    ∃ found, collectRegularFiles packages place.tree = .ok found ∧
      sortByPath found ≠ sortByPath files := by
  refine ⟨_, collect_ok remains.rooted remains.fine, fun same => ?_⟩
  have perm := perm_of_sortByPath same
  rw [held.files] at perm
  have expected : (⟨pathText [snapshotSentinelFile], sentinel.length,
      packages.sha256 sentinel⟩ : SnapshotFile) ∈ entries.filterMap (named packages) :=
    List.mem_filterMap.mpr ⟨_, last, rfl⟩
  have found := (perm.trans (sortByPath_perm _)).symm.subset expected
  obtain ⟨entry, member, file⟩ := List.mem_filterMap.mp found
  have below : entry.1 ≠ [] := by
    rcases (remains.fine entry member).1 with below | directory
    · exact below
    · obtain ⟨path, node⟩ := entry
      cases directory
      cases file
  obtain ⟨content, rfl, size⟩ := named_of_sentinel below file rfl
  exact remains.lacks content member size.symm

/-- A whole extraction can be synced. -/
theorem complete_synced (held : ArchiveOf packages tar archive entries files) {place : Place Bytes}
    (complete : Complete entries place) : ∃ synced, syncTree place.tree = .ok synced := by
  obtain ⟨children, same⟩ := directory_of_root (complete_rooted complete)
  refine ⟨(nodes [] place.tree).flatMap fun _ => [], ?_⟩
  have walked : syncTree place.tree = walk syncNode [] place.tree := by
    rw [same, syncTree]
  rw [walked, walk_eq]
  refine gather_ok fun entry member => ?_
  have plain : Plain entry.2 := by
    rcases List.mem_append.mp ((complete entry).mp member) with base | inside
    · rw [List.mem_singleton.mp base]
      trivial
    · exact (held.fine entry inside).1
  obtain ⟨path, node⟩ := entry
  cases node with
  | file content => rfl
  | directory => rfl
  | special kind => exact plain.elim

theorem ensures_touching {label : ExtractionEffect} {torn : Attempt → Extraction → Extraction}
    {body : Extracting α} {Q : Outcome String α → Extraction → Prop} :
    Program.Ensures (touching label torn body) e Q s ↔
      (e.faults label = .none → Program.Ensures body e Q s) ∧
      (∀ detail, e.faults label = .fail detail → Q (.error detail) (torn e s)) ∧
      (e.faults label = .crash → Q .crashed (torn e s)) := by
  unfold Program.Ensures touching
  cases e.faults label with
  | none => simp
  | fail detail => simp
  | crash => simp

/-- What a call leaves: a state that can be resumed, the whole tree if it reports success, and
success unless an effect was cut off. -/
structure Prepared (entries : List (List FileName × Node Bytes)) (size : ℕ) (e : Attempt)
    (o : Outcome String Unit) (s : Extraction) : Prop where
  resumable : Resumable entries size s
  whole : o = .ok () → ∃ place, s.destination = some place ∧ Complete entries place
  succeeds : (∀ label, e.faults label = .none) → o = .ok ()

variable {size : ℕ}

/-- A call that is cut off at one of its effects. -/
theorem prepared_cut {label : ExtractionEffect} (cut : e.faults label ≠ .none)
    {o : Outcome String Unit} (ends : o ≠ .ok ()) (resumable : Resumable entries size s) :
    Prepared entries size e o s where
  resumable := resumable
  whole ok := absurd ok ends
  succeeds none := absurd (none label) cut

/-- Each effect of a call is followed by the rest of it, or ends it in a state to resume. -/
theorem touching_bind {label : ExtractionEffect} {torn : Attempt → Extraction → Extraction}
    {body : Extracting α} {f : α → Extracting Unit} (resumable : Resumable entries size (torn e s))
    (rest : e.faults label = .none →
      Program.Ensures body e (Program.After f e (Prepared entries size e)) s) :
    Program.Ensures (touching label torn body >>= f) e (Prepared entries size e) s := by
  rw [Program.ensures_bind, ensures_touching]
  refine ⟨rest, fun detail fails => ?_, fun lost => ?_⟩
  · have cut : e.faults label ≠ .none := by
      rw [fails]
      exact fun wrong => by cases wrong
    exact prepared_cut cut (fun wrong => by cases wrong) resumable
  · have cut : e.faults label ≠ .none := by
      rw [lost]
      exact fun wrong => by cases wrong
    exact prepared_cut cut (fun wrong => by cases wrong) resumable

/-- What is left beside an absent destination is a state to resume. -/
theorem resumable_absent (absent : s.destination = none)
    (rooted : ∀ place, s.beside = some place → ([], .directory) ∈ nodes [] place.tree) :
    Resumable entries size s where
  destination place held := by
    rw [absent] at held
    cases held
  beside := rooted

theorem tornBeside_rooted {place : Place Bytes} (held : (tornBeside e s).beside = some place) :
    ([], .directory) ∈ nodes [] place.tree := by
  obtain ⟨left, _, rfl⟩ := Option.map_eq_some_iff.mp held
  exact left.rooted

theorem clearBeside_prepared {f : Unit → Extracting Unit} (absent : s.destination = none)
    (rooted : ∀ place, s.beside = some place → ([], .directory) ∈ nodes [] place.tree)
    (rest : Program.Ensures (f ()) e (Prepared entries size e) ⟨none, none⟩) :
    Program.Ensures (clearBeside >>= f) e (Prepared entries size e) s := by
  obtain ⟨destination, beside⟩ := s
  cases absent
  unfold clearBeside
  rw [Program.bind_assoc]
  refine touching_bind (resumable_absent rfl rooted) fun _ => ?_
  cases beside with
  | none => exact rest
  | some place =>
    have real := isRealDirectory_of_rooted (rooted place rfl)
    have torn : Resumable entries size (tornBeside e ⟨none, some place⟩) :=
      resumable_absent rfl fun _ held => tornBeside_rooted held
    have removal : Program.Ensures (touching .removePartial tornBeside
        (Program.modify fun s => { s with beside := none }) >>= f) e (Prepared entries size e)
        ⟨none, some place⟩ := touching_bind torn fun _ => rest
    rw [Program.ensures_pure, Program.after_ok, Program.ensures_bind, Program.ensures_bind,
      Program.ensures_get, Program.after_ok, Program.ensures_bind, Program.ensures_require]
    refine ⟨fun _ => ?_, fun wrong => absurd real wrong⟩
    rw [Program.ensures_bind] at removal
    exact removal

/-- A call that finds no destination. -/
theorem extractAgain_prepared (faithful : Faithful tar)
    (held : ArchiveOf packages tar archive entries files) (absent : s.destination = none)
    (rooted : ∀ place, s.beside = some place → ([], .directory) ∈ nodes [] place.tree) :
    Program.Ensures (extractAgain packages tar archive files) e (Prepared entries size e) s := by
  obtain ⟨restored, extracted, complete⟩ := extracted_complete faithful held
  obtain ⟨synced, syncs⟩ := complete_synced held complete
  have made : ∀ place, (⟨none, some restored⟩ : Extraction).beside = some place →
      ([], .directory) ∈ nodes [] place.tree := by
    intro place same
    cases same
    exact complete_rooted complete
  have renamed : Resumable entries size ⟨some restored, none⟩ := by
    refine ⟨fun place same => ?_, fun place same => by cases same⟩
    cases same
    exact .inl complete
  unfold extractAgain
  refine clearBeside_prepared absent rooted ?_
  refine touching_bind (resumable_absent rfl fun place none => by cases none) fun _ => ?_
  rw [Program.ensures_modify, Program.after_ok]
  refine touching_bind (resumable_absent rfl fun _ left => tornBeside_rooted left) fun _ => ?_
  have unpacked : (extractBeside packages tar archive files) e ⟨none, some emptyDirectory⟩ =
      (.ok (), ⟨none, some restored⟩) := by
    simp only [extractBeside, extracted, Program.run_ofExcept_ok]
  have walked : (syncBeside : Extracting Unit) e ⟨none, some restored⟩ =
      (.ok (), ⟨none, some restored⟩) := by
    rw [syncBeside, Program.run_bind_ok Program.run_get]
    simp only [syncs]
    rfl
  rw [Program.Ensures, unpacked]
  refine touching_bind (resumable_absent rfl made) fun _ => ?_
  rw [Program.Ensures, walked]
  refine touching_bind (resumable_absent rfl made) fun _ => ?_
  have synced : Program.Ensures (steady .syncParent (pure ())) e (Prepared entries size e)
      ⟨some restored, none⟩ := by
    refine ensures_touching.mpr ⟨fun _ => ?_, fun detail fails => ?_, fun lost => ?_⟩
    · exact ⟨renamed, fun _ => ⟨restored, rfl, complete⟩, fun _ => rfl⟩
    · have cut : e.faults .syncParent ≠ .none := by
        rw [fails]
        exact fun wrong => by cases wrong
      exact prepared_cut cut (fun wrong => by cases wrong) renamed
    · have cut : e.faults .syncParent ≠ .none := by
        rw [lost]
        exact fun wrong => by cases wrong
      exact prepared_cut cut (fun wrong => by cases wrong) renamed
  exact synced

/-- A removal that is cut off takes nothing for the whole that was not. -/
theorem resumable_torn {place : Place Bytes} {beside : Option (Place Bytes)}
    (remains : Remains size place)
    (rooted : ∀ place, beside = some place → ([], .directory) ∈ nodes [] place.tree) :
    Resumable entries size (tornDestination e ⟨some place, beside⟩) := by
  refine ⟨fun other held => ?_, rooted⟩
  unfold tornDestination at held
  cases gone : e.gone [] with
  | true =>
    rw [gone] at held
    cases held
  | false =>
    rw [gone] at held
    cases held
    exact .inr (remains.pruned e.gone)

/-- Every call leaves a state that can be resumed, however it ends. -/
theorem prepareRecoveryArchive_prepared (faithful : Faithful tar)
    (held : ArchiveOf packages tar archive entries files)
    (last : ([snapshotSentinelFile], .file sentinel) ∈ entries)
    (resumable : Resumable entries sentinel.length s) :
    Program.Ensures (prepareRecoveryArchive packages tar archive files) e
      (Prepared entries sentinel.length e) s := by
  unfold prepareRecoveryArchive
  refine touching_bind resumable fun _ => ?_
  obtain ⟨destination, beside⟩ := s
  cases destination with
  | none => exact extractAgain_prepared faithful held rfl resumable.beside
  | some place =>
    have found : ∃ found, collectRegularFiles packages place.tree = .ok found ∧
        (sortByPath found = sortByPath files → Complete entries place) ∧
        (sortByPath found ≠ sortByPath files → Remains sentinel.length place) ∧
        ([], .directory) ∈ nodes [] place.tree := by
      rcases resumable.destination place rfl with complete | remains
      · obtain ⟨found, collects, same⟩ := complete_found held complete
        exact ⟨found, collects, fun _ => complete, fun other => absurd same other,
          complete_rooted complete⟩
      · obtain ⟨found, collects, other⟩ := remains_differs held last remains
        exact ⟨found, collects, fun same => absurd same other, fun _ => remains, remains.rooted⟩
    obtain ⟨found, collects, whole, remains, rooted⟩ := found
    rw [Program.ensures_pure, Program.after_ok, Program.ensures_bind, Program.ensures_get,
      Program.after_ok, Program.ensures_bind, Program.ensures_require]
    refine ⟨fun _ => ?_, fun wrong => absurd (isRealDirectory_of_rooted rooted) wrong⟩
    rw [Program.after_ok, collects]
    by_cases same : sortByPath found = sortByPath files
    · rw [Program.ensures_bind, Program.ensures_ofExcept]
      refine ⟨fun other read => ?_, fun error wrong => by cases wrong⟩
      cases read
      rw [Program.after_ok, if_pos same]
      exact ⟨resumable, fun _ => ⟨place, rfl, whole same⟩, fun _ => rfl⟩
    · rw [Program.ensures_bind, Program.ensures_ofExcept]
      refine ⟨fun other read => ?_, fun error wrong => by cases wrong⟩
      cases read
      rw [Program.after_ok, if_neg same]
      exact touching_bind (resumable_torn (remains same) resumable.beside) fun _ =>
        extractAgain_prepared faithful held rfl resumable.beside

end Calls

/-! ## Any archive -/

section AnyArchive

variable {packages : Packages} {tar : TarCrate} {archive : Bytes} {files : List SnapshotFile}
  {e : Attempt} {s s' : Extraction} {α : Type}

/-- A directory tree without links and special files whose files are those of the list. -/
structure Listed (packages : Packages) (files : List SnapshotFile) (place : Place Bytes) :
    Prop where
  plain : ∀ entry ∈ nodes [] place.tree, Plain entry.2
  files : ((nodes [] place.tree).filterMap (named packages)).Perm files

theorem collectNode_read {path : List FileName} {node : Node Bytes} {own : List SnapshotFile}
    (read : collectNode packages path node = .ok own) :
    own = (named packages (path, node)).toList ∧ Plain node := by
  cases node with
  | file content =>
    obtain ⟨one, made, only⟩ := bind_ok.mp read
    obtain ⟨_, _, made⟩ := bind_ok.mp made
    obtain ⟨relative, parted, made⟩ := bind_ok.mp made
    have below : path ≠ [] := by
      rintro rfl
      cases parted
    rw [relativeArchivePath_componentsOf below] at parted
    cases parted
    cases made
    cases only
    exact ⟨rfl, trivial⟩
  | directory =>
    cases read
    exact ⟨rfl, trivial⟩
  | special kind =>
    cases kind with
    | link => cases read
    | other => cases read

theorem listed_of_collected {place : Place Bytes} {found : List SnapshotFile}
    (collects : collectRegularFiles packages place.tree = .ok found) (same : found.Perm files) :
    Listed packages files place := by
  have walked : gather (collectNode packages) (nodes [] place.tree) = .ok found := by
    rw [← walk_eq]
    cases tree : place.tree with
    | directory children =>
      rw [tree] at collects
      exact collects
    | file content =>
      rw [tree] at collects
      cases collects
    | special kind =>
      rw [tree] at collects
      cases collects
  obtain ⟨all, plain⟩ := gathered (fun entry _ own => collectNode_read) walked
  rw [all, flatMap_named] at same
  exact ⟨plain, same⟩

theorem run_touching {label : ExtractionEffect} {torn : Attempt → Extraction → Extraction}
    {body : Extracting α} {a : α} (ran : touching label torn body e s = (.ok a, s')) :
    body e s = (.ok a, s') := by
  unfold touching at ran
  cases fault : e.faults label with
  | none =>
    rw [fault] at ran
    exact ran
  | fail detail =>
    rw [fault] at ran
    cases ran
  | crash =>
    rw [fault] at ran
    cases ran

theorem extractBeside_listed (ran : extractBeside packages tar archive files e s = (.ok (), s')) :
    ∃ place, s'.beside = some place ∧ Listed packages files place := by
  unfold extractBeside at ran
  cases beside : s.beside with
  | none =>
    rw [beside] at ran
    cases ran
  | some place =>
    rw [beside] at ran
    dsimp only at ran
    rcases extracted : extractDeploymentArchive packages tar archive place files with
      ⟨error | _, after⟩
    · simp only [extracted, Program.run_ofExcept] at ran
      cases ran
    · simp only [extracted, Program.run_ofExcept] at ran
      cases ran
      obtain ⟨found, collects, same⟩ := extracted_files extracted
      exact ⟨after, rfl, listed_of_collected collects same⟩

theorem syncBeside_kept (ran : syncBeside e s = (.ok (), s')) : s' = s := by
  obtain ⟨_, _, got, ran⟩ := Program.run_bind_eq_ok ran
  cases got
  cases beside : s.beside with
  | none =>
    rw [beside] at ran
    cases ran
  | some place =>
    rw [beside] at ran
    obtain ⟨_, _, synced, ran⟩ := Program.run_bind_eq_ok ran
    rw [Program.run_ofExcept] at synced
    cases ran
    exact (congrArg Prod.snd synced).symm

theorem extractAgain_listed (ran : extractAgain packages tar archive files e s = (.ok (), s')) :
    ∃ place, s'.destination = some place ∧ Listed packages files place := by
  obtain ⟨_, _, _, ran⟩ := Program.run_bind_eq_ok ran
  obtain ⟨_, _, _, ran⟩ := Program.run_bind_eq_ok ran
  obtain ⟨_, _, extracted, ran⟩ := Program.run_bind_eq_ok ran
  obtain ⟨place, beside, listed⟩ := extractBeside_listed (run_touching extracted)
  obtain ⟨_, _, synced, ran⟩ := Program.run_bind_eq_ok ran
  have kept := syncBeside_kept (run_touching synced)
  obtain ⟨_, _, renamed, ran⟩ := Program.run_bind_eq_ok ran
  have moved := congrArg Prod.snd (run_touching renamed)
  have ended := congrArg Prod.snd (run_touching ran)
  subst moved ended kept
  exact ⟨place, beside, listed⟩

/-- Whatever the archive holds and whatever is found in the two places: a call that succeeds
leaves the files of the list and no others, and nothing but files and directories. -/
theorem prepareRecoveryArchive_listed (packages : Packages) (tar : TarCrate) (archive : Bytes)
    (files : List SnapshotFile) (e : Attempt) (s : Extraction) :
    Program.Ensures (prepareRecoveryArchive packages tar archive files) e
      (fun o s' => o = .ok () →
        ∃ place, s'.destination = some place ∧ Listed packages files place) s := by
  rcases ran : prepareRecoveryArchive packages tar archive files e s with ⟨o, s'⟩
  rw [Program.Ensures, ran]
  rintro rfl
  obtain ⟨_, _, inspected, ran⟩ := Program.run_bind_eq_ok ran
  cases run_touching inspected
  obtain ⟨_, _, got, ran⟩ := Program.run_bind_eq_ok ran
  cases got
  cases destination : s.destination with
  | none =>
    rw [destination] at ran
    exact extractAgain_listed ran
  | some place =>
    rw [destination] at ran
    obtain ⟨_, _, real, ran⟩ := Program.run_bind_eq_ok ran
    rw [Program.run_require] at real
    obtain rfl := congrArg Prod.snd real
    obtain ⟨found, _, collects, ran⟩ := Program.run_bind_eq_ok ran
    rw [Program.run_ofExcept] at collects
    obtain rfl := congrArg Prod.snd collects
    by_cases same : sortByPath found = sortByPath files
    · rw [if_pos same] at ran
      cases ran
      have collected : collectRegularFiles packages place.tree = .ok found := by
        cases read : collectRegularFiles packages place.tree with
        | error error =>
          rw [read] at collects
          cases collects
        | ok others =>
          rw [read] at collects
          cases collects
          rfl
      exact ⟨place, destination, listed_of_collected collected (perm_of_sortByPath same)⟩
    · rw [if_neg same] at ran
      obtain ⟨_, _, _, ran⟩ := Program.run_bind_eq_ok ran
      exact extractAgain_listed ran

end AnyArchive

/-! ## Interrupted calls -/

/-- What an extraction of an archive leaves that is cut off, within a file or between two
entries. -/
def CutOff (tar : TarCrate) (archive : Bytes) (place : Place Bytes) : Prop :=
  ∃ done next later, (∀ entry ∈ done ++ next :: later, Plain entry.2) ∧
    tar.entries archive = ((done ++ next :: later).map entryOf).map .ok ∧
    ((∀ entry, entry ∈ nodes [] place.tree ↔ entry ∈ [root] ++ done) ∨
      ∃ path content rest, rest ≠ [] ∧ next = (path, .file (content ++ rest)) ∧
        ∀ entry, entry ∈ nodes [] place.tree ↔ entry ∈ [root] ++ done ++ [(path, .file content)])

/-- What an archive restores of its sources, at a place. -/
def Restores (packages : Packages) (sources : DeploymentSources) (place : Place Bytes) : Prop :=
  ∀ path node, (path, node) ∈ nodes [] place.tree ↔
    (path, node) = root ∨ Archived packages sources path node

/-- What attempts that were interrupted before can have left. -/
structure Interrupted (packages : Packages) (tar : TarCrate) (sources : DeploymentSources)
    (archive : Bytes) (s : Extraction) : Prop where
  destination : ∀ place, s.destination = some place →
    Restores packages sources place ∨ CutOff tar archive place
  beside : ∀ place, s.beside = some place → ([], .directory) ∈ nodes [] place.tree

/-- One call after the other, each in an environment of its own. -/
def Called (packages : Packages) (tar : TarCrate) (archive : Bytes) (files : List SnapshotFile)
    (before after : Extraction) : Prop :=
  ∃ e, (prepareRecoveryArchive packages tar archive files e before).2 = after

theorem componentsOf_injective {one other : List FileName}
    (same : componentsOf one = componentsOf other) : one = other := by
  refine List.map_injective_iff.mpr ?_ same
  intro left right equal
  cases left
  cases right
  cases equal
  rfl

theorem entryOf_injective {one other : List FileName × Node Bytes} (plain : Plain one.2)
    (also : Plain other.2) (same : entryOf one = entryOf other) : one = other := by
  obtain ⟨path, node⟩ := one
  obtain ⟨path', node'⟩ := other
  have paths : path = path' := by
    cases node with
    | special kind => exact plain.elim
    | file content =>
      cases node' with
      | special kind => exact also.elim
      | file content' => exact componentsOf_injective (congrArg ArchiveEntry.path same)
      | directory => cases congrArg ArchiveEntry.entryType same
    | directory =>
      cases node' with
      | special kind => exact also.elim
      | file content' => cases congrArg ArchiveEntry.entryType same
      | directory => exact componentsOf_injective (congrArg ArchiveEntry.path same)
  subst paths
  cases node with
  | special kind => exact plain.elim
  | file content =>
    cases node' with
    | special kind => exact also.elim
    | file content' =>
      have contents : content = content' := congrArg ArchiveEntry.content same
      rw [contents]
    | directory => cases congrArg ArchiveEntry.entryType same
  | directory =>
    cases node' with
    | special kind => exact also.elim
    | file content' => cases congrArg ArchiveEntry.entryType same
    | directory => rfl

/-- An archive holds one list of entries. -/
theorem entries_unique {one other : List (List FileName × Node Bytes)}
    (plain : ∀ entry ∈ one, Plain entry.2) (also : ∀ entry ∈ other, Plain entry.2)
    (same : one.map entryOf = other.map entryOf) : one = other := by
  induction one generalizing other with
  | nil => exact (List.map_eq_nil_iff.mp same.symm).symm
  | cons first rest ih =>
    cases other with
    | nil => cases same
    | cons first' rest' =>
      rw [List.map_cons, List.map_cons, List.cons.injEq] at same
      rw [entryOf_injective (plain _ List.mem_cons_self) (also _ List.mem_cons_self) same.1,
        ih (fun entry member => plain entry (List.mem_cons_of_mem _ member))
          (fun entry member => also entry (List.mem_cons_of_mem _ member)) same.2]

section Runs

variable {packages : Packages} {tar : TarCrate} {archive : Bytes} {files : List SnapshotFile}
  {entries front : List (List FileName × Node Bytes)} {sentinel : Bytes}

/-- The sentinel is the last file that an extraction writes. -/
theorem remains_of_cutOff (held : ArchiveOf packages tar archive entries files)
    (last : entries = front ++ [([snapshotSentinelFile], .file sentinel)]) {place : Place Bytes}
    (off : CutOff tar archive place) : Remains sentinel.length place := by
  obtain ⟨done, next, later, plain, read, left⟩ := off
  have split : entries = done ++ next :: later := by
    refine entries_unique (fun entry member => (held.fine entry member).1) plain ?_
    have both := held.read.symm.trans read
    exact List.map_injective_iff.mpr (fun _ _ same => Except.ok.inj same) both
  have distinct : (done.map Prod.fst ++ (next :: later).map Prod.fst).Nodup := by
    have whole := held.distinct
    rw [List.map_append, split, List.map_append] at whole
    exact (List.nodup_append'.mp whole).2.1
  have ahead : ([snapshotSentinelFile], Node.file sentinel) ∈ next :: later := by
    have ends : (done ++ next :: later).getLast? =
        some ([snapshotSentinelFile], .file sentinel) := by
      rw [← split, last, List.getLast?_append]
      rfl
    rw [List.getLast?_append_of_ne_nil _ (List.cons_ne_nil _ _)] at ends
    exact List.mem_of_getLast? ends
  have pathAhead : [snapshotSentinelFile] ∈ (next :: later).map Prod.fst :=
    List.mem_map_of_mem (f := Prod.fst) ahead
  have unwritten : ∀ node, ([snapshotSentinelFile], node) ∉ done := fun node member =>
    (List.nodup_append'.mp distinct).2.2 (List.mem_map_of_mem (f := Prod.fst) member) pathAhead
  have written : ∀ entry ∈ [root] ++ done, (entry.1 ≠ [] ∨ entry.2 = .directory) ∧
      Plain entry.2 ∧ Short entry.2 := by
    intro entry member
    rcases List.mem_append.mp member with base | inside
    · rw [List.mem_singleton.mp base]
      exact ⟨.inr rfl, trivial, trivial⟩
    · have listed : entry ∈ entries := split ▸ List.mem_append_left _ inside
      exact ⟨.inl (orderly_paths held.orderly entry listed), held.fine entry listed⟩
  have rootIn : root ∈ [root] ++ done := List.mem_append_left _ (List.mem_singleton_self _)
  have noSentinel : ∀ content, ([snapshotSentinelFile], .file content) ∉ [root] ++ done := by
    intro content member
    rcases List.mem_append.mp member with base | inside
    · cases List.mem_singleton.mp base
    · exact unwritten _ inside
  rcases left with between | ⟨path, content, rest, more, torn, within⟩
  · exact ⟨(between _).mpr rootIn, fun entry member => written entry ((between entry).mp member),
      fun content member => absurd ((between _).mp member) (noSentinel content)⟩
  · have listed : (path, Node.file (content ++ rest)) ∈ entries := by
      rw [split, torn]
      exact List.mem_append_right _ List.mem_cons_self
    have short : (content ++ rest).length ≤ maxSnapshotFileBytes := (held.fine _ listed).2
    have below : path ≠ [] := orderly_paths held.orderly _ listed
    rw [List.length_append] at short
    refine ⟨(within _).mpr (List.mem_append_left _ rootIn), fun entry member => ?_, ?_⟩
    · rcases List.mem_append.mp ((within entry).mp member) with before | last
      · exact written entry before
      · rw [List.mem_singleton.mp last]
        exact ⟨.inl below, trivial, le_trans (Nat.le_add_right _ _) short⟩
    · intro other member
      rcases List.mem_append.mp ((within _).mp member) with before | last
      · exact absurd before (noSentinel other)
      · -- The sentinel itself is what was cut off.
        cases List.mem_singleton.mp last
        have same : Node.file sentinel = .file (content ++ rest) := by
          rw [torn] at ahead distinct
          rcases List.mem_cons.mp ahead with same | later'
          · exact congrArg Prod.snd same
          · exact absurd (List.mem_map_of_mem (f := Prod.fst) later')
              (List.nodup_cons.mp (List.nodup_append'.mp distinct).2.1).1
        cases same
        rw [List.length_append]
        have some := List.length_pos_iff.mpr more
        omega

/-- However calls were interrupted, the next one finds a state to resume. -/
theorem resumable_called (faithful : Faithful tar)
    (held : ArchiveOf packages tar archive entries files)
    (last : entries = front ++ [([snapshotSentinelFile], .file sentinel)]) {first s : Extraction}
    (resumable : Resumable entries sentinel.length first)
    (calls : Relation.ReflTransGen (Called packages tar archive files) first s) :
    Resumable entries sentinel.length s := by
  have written : ([snapshotSentinelFile], .file sentinel) ∈ entries := by
    rw [last]
    exact List.mem_append_right _ (List.mem_singleton_self _)
  induction calls with
  | refl => exact resumable
  | tail _ call ih =>
    obtain ⟨e, rfl⟩ := call
    exact (prepareRecoveryArchive_prepared faithful held written ih).resumable

variable {sources : DeploymentSources}

theorem restores_iff (archived : ∀ path node, (path, node) ∈ entries ↔
    Archived packages sources path node) {place : Place Bytes} :
    Complete entries place ↔ Restores packages sources place := by
  have split : ∀ path node, (path, node) ∈ [root] ++ entries ↔
      (path, node) = root ∨ Archived packages sources path node := by
    intro path node
    rw [List.mem_append, List.mem_singleton, archived]
  constructor
  · exact fun complete path node => (complete (path, node)).trans (split path node)
  · exact fun restores entry => (restores entry.1 entry.2).trans (split entry.1 entry.2).symm

end Runs

section sample

instance (path : List FileName) (tree : Tree FileName Bytes) : Decidable (Vacant path tree) :=
  decidable_of_iff ((path ≠ [] ∧ (path.dropLast, Node.directory) ∈ nodes [] tree) ∧
    ∀ entry ∈ nodes [] tree, entry.1 ≠ path) <| by
  constructor
  · rintro ⟨⟨more, parent⟩, unused⟩
    exact ⟨⟨path.dropLast, path.getLast more, (List.dropLast_append_getLast more).symm, parent⟩,
      fun node member => unused _ member rfl⟩
  · intro vacant
    obtain ⟨above, name, rfl, parent⟩ := vacant.parent
    refine ⟨⟨List.append_ne_nil_of_right_ne_nil _ (List.cons_ne_nil _ _), ?_⟩, ?_⟩
    · rw [List.dropLast_concat]
      exact parent
    · rintro ⟨path, node⟩ member rfl
      exact vacant.unused node member

def fileNames : List Component → Option (List FileName)
  | [] => some []
  | .normal (some text) :: rest =>
    if proper : text ≠ "" ∧ '/' ∉ text.toList ∧ text ≠ "." ∧ text ≠ ".." then
      (fileNames rest).map (⟨text, proper⟩ :: ·)
    else none
  | _ :: _ => none

theorem fileNames_componentsOf (path : List FileName) :
    fileNames (componentsOf path) = some path := by
  induction path with
  | nil => rfl
  | cons name rest ih =>
    have split : componentsOf (name :: rest) = .normal (some name.text) :: componentsOf rest := rfl
    rw [split, fileNames, dif_pos name.proper, ih]
    rfl

def nodeOf (entry : ArchiveEntry) : Node Bytes :=
  if entry.entryType = .directory then .directory else .file entry.content

/-- A package that adds an entry where its place is vacant, and writes one archive only. -/
def sampleTar (written : List ArchiveEntry) : TarCrate where
  write entries := if entries = written then .ok [1] else .error "unsupported"
  entries archive := if archive = [1] then written.map .ok else []
  unpackIn place entry :=
    match fileNames entry.path with
    | none => (.ok false, place)
    | some path =>
      if vacant : Vacant path place.tree then
        (.ok true, ⟨graft (nodeOf entry) path place.tree,
          distinct_graft (nodeOf entry) place.distinct vacant⟩)
      else (.error "exists", place)

theorem sampleTar_faithful (written : List ArchiveEntry) : Faithful (sampleTar written) where
  read plain wrote := by
    simp only [sampleTar] at wrote ⊢
    split at wrote
    · rename_i same
      cases wrote
      rw [if_pos rfl, same]
    · cases wrote
  unpack {place path node} plain vacant := by
    have entry : fileNames (entryOf (path, node)).path = some path ∧
        nodeOf (entryOf (path, node)) = node := by
      cases node with
      | file content => exact ⟨fileNames_componentsOf path, rfl⟩
      | directory => exact ⟨fileNames_componentsOf path, rfl⟩
      | special kind => exact plain.elim
    refine ⟨⟨graft node path place.tree, distinct_graft node place.distinct vacant⟩, ?_, ?_⟩
    · simp only [sampleTar, entry.1, entry.2, dif_pos vacant]
    · intro other
      obtain ⟨at', kind⟩ := other
      rw [mem_graft node place.distinct vacant, Prod.mk.injEq]

def samplePackages : Packages where
  yaml _ := .ok (some fun name => if name = "PORT" then some (.number "8080") else none)
  sha256 bytes := s!"digest of {bytes.length} bytes"

/-- A key below a directory of the data tree, beside an empty directory. -/
def sampleData : Place SourceFile where
  tree := .directory [
    (⟨"keys", by decide⟩, .directory [(⟨"current", by decide⟩, .file ⟨[7, 8, 9], 1⟩)]),
    (⟨"uploads", by decide⟩, .directory [])]
  distinct := by
    simp [Distinct, DistinctBelow]

/-- `PORT: 8080` -/
def sampleConfig : Bytes := [80, 79, 82, 84, 58, 32, 56, 48, 56, 48]

def sampleSources : DeploymentSources where
  data := sampleData
  secretPresent name := .ok (name ≠ previousSigningKeySecret)
  secret _ := .ok [1, 2, 3]
  config := .ok sampleConfig
  configPath := "/etc/nazo/config.yaml"
  sentinel := ⟨List.replicate 64 48, rfl⟩

def sampleEntries : List (List FileName × Node Bytes) :=
  archiveNodes sampleData.tree (secretFiles.map fun name => (name, [1, 2, 3])) sampleConfig
    sampleSources.sentinel.1

theorem created_sample : ∃ files, createDeploymentArchive samplePackages
    (sampleTar (sampleEntries.map entryOf)) sampleSources = .ok ([1], files) := by
  exact ⟨_, rfl⟩

end sample

end NazoAuthCtl.RecoveryExtraction
