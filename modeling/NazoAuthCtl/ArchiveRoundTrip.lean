import Mathlib.Data.String.Basic
import NazoAuthCtl.DeploymentArchive

/-!
# An archive and its extraction

What an archive is made from is a list of nodes, each below a directory that comes before it. An
extraction of those entries into an empty directory has exactly these nodes, and finds exactly
the files that were named. Whatever an archive holds, a successful extraction finds exactly the
files of the list that it is given.
-/

set_option autoImplicit false
set_option linter.all false

namespace NazoAuthCtl.ArchiveRoundTrip

open Checks DirectoryTrees DeploymentArchive
open SnapshotManifests (Bytes SnapshotFile)

/-! ## Paths -/

def pathText (path : List FileName) : String := joined (path.map FileName.text)

theorem archivePathParts_componentsOf (path : List FileName) :
    archivePathParts (componentsOf path) = .ok (path.map FileName.text) := by
  induction path with
  | nil => rfl
  | cons name rest ih =>
    rw [componentsOf] at ih
    rw [componentsOf, List.map_cons, archivePathParts, ih]
    rfl

theorem relativeArchivePath_componentsOf {path : List FileName} (some : path ≠ []) :
    relativeArchivePath (componentsOf path) = .ok (pathText path) := by
  have parts : path.map FileName.text ≠ [] := fun none => some (List.map_eq_nil_iff.mp none)
  rw [relativeArchivePath, archivePathParts_componentsOf]
  exact bind_ok.mpr ⟨_, rfl, bind_ok.mpr ⟨(), check_ok.mpr parts, rfl⟩⟩

/-- A path is found again in its text, as no name holds the separator. -/
theorem pathText_injective {first second : List FileName} (one : first ≠ []) (other : second ≠ [])
    (same : pathText first = pathText second) : first = second := by
  have split : ∀ {path : List FileName}, path ≠ [] →
      (pathText path).toList.splitOn '/' = (path.map FileName.text).map String.toList := by
    intro path some
    rw [pathText, joined, String.toList_ofList]
    apply List.splitOn_intercalate
    · intro part member
      rw [List.map_map] at member
      obtain ⟨name, _, rfl⟩ := List.mem_map.mp member
      exact name.proper.2.1
    · simpa using some
  have parts := (split one).symm.trans ((congrArg (fun text => text.toList.splitOn '/') same).trans
    (split other))
  rw [List.map_map, List.map_map] at parts
  refine List.map_injective_iff.mpr ?_ parts
  intro left right equal
  cases left
  cases right
  have texts := String.toList_inj.mp equal
  subst texts
  rfl

/-! ## Sorted files -/

theorem sortByPath_perm (files : List SnapshotFile) : (sortByPath files).Perm files :=
  List.mergeSort_perm _ _

theorem sortByPath_sorted (files : List SnapshotFile) :
    (sortByPath files).Pairwise fun left right => left.path ≤ right.path := by
  have trans : ∀ a b c : SnapshotFile, decide (a.path ≤ b.path) = true →
      decide (b.path ≤ c.path) = true → decide (a.path ≤ c.path) = true := by
    intro a b c first second
    simp only [decide_eq_true_eq] at first second ⊢
    exact le_trans first second
  have total : ∀ a b : SnapshotFile,
      (decide (a.path ≤ b.path) || decide (b.path ≤ a.path)) = true := by
    intro a b
    simp only [Bool.or_eq_true, decide_eq_true_eq]
    exact le_total a.path b.path
  exact (List.pairwise_mergeSort trans total files).imp fun ordered => decide_eq_true_eq.mp ordered

/-- Files of distinct paths have one order. -/
theorem sortByPath_of_perm {first second : List SnapshotFile}
    (distinct : (first.map SnapshotFile.path).Nodup) (perm : first.Perm second) :
    sortByPath first = sortByPath second := by
  refine List.Perm.eq_of_pairwise ?_ (sortByPath_sorted first) (sortByPath_sorted second)
    ((sortByPath_perm first).trans (perm.trans (sortByPath_perm second).symm))
  intro a b inFirst inSecond le ge
  refine List.inj_on_of_nodup_map distinct ((sortByPath_perm first).subset inFirst) ?_
    (le_antisymm le ge)
  exact perm.symm.subset ((sortByPath_perm second).subset inSecond)

theorem perm_of_sortByPath {first second : List SnapshotFile}
    (same : sortByPath first = sortByPath second) : first.Perm second := by
  have sorted := sortByPath_perm first
  rw [same] at sorted
  exact sorted.symm.trans (sortByPath_perm second)

/-! ## The tar package -/

/-- An entry for a node. -/
def entryOf : List FileName × Node Bytes → ArchiveEntry
  | (path, .file content) => ⟨.regular, componentsOf path, content⟩
  | (path, _) => ⟨.directory, componentsOf path, []⟩

def Plain : Node Bytes → Prop
  | .special _ => False
  | _ => True

/-- A builder's entries are read back, and an entry below a directory that is there becomes the
one new node of the place. -/
structure Faithful (tar : TarCrate) : Prop where
  read {written : List (List FileName × Node Bytes)} {archive : Bytes} :
    (∀ entry ∈ written, entry.1 ≠ [] ∧ Plain entry.2) →
    tar.write (written.map entryOf) = .ok archive →
    tar.entries archive = (written.map entryOf).map .ok
  unpack {place : Place Bytes} {path : List FileName} {node : Node Bytes} : Plain node →
    Vacant path place.tree →
    ∃ after, tar.unpackIn place (entryOf (path, node)) = (.ok true, after) ∧
      ∀ entry, entry ∈ nodes [] after.tree ↔ entry ∈ nodes [] place.tree ∨ entry = (path, node)

/-! ## Unpacking -/

theorem path_of_orderly {seen rest : List (List FileName × Node Bytes)} {path : List FileName}
    {node : Node Bytes} (orderly : Orderly seen ((path, node) :: rest)) : path ≠ [] := by
  obtain ⟨⟨above, name, rfl, _⟩, _⟩ := orderly
  exact List.append_ne_nil_of_right_ne_nil _ (List.cons_ne_nil _ _)

theorem orderly_paths {seen entries : List (List FileName × Node Bytes)}
    (orderly : Orderly seen entries) : ∀ entry ∈ entries, entry.1 ≠ [] := by
  induction entries generalizing seen with
  | nil => exact fun entry member => absurd member List.not_mem_nil
  | cons first rest ih =>
    exact List.forall_mem_cons.mpr ⟨path_of_orderly orderly, ih orderly.2⟩

/-- One plain entry whose place is vacant is unpacked there. -/
theorem unpack_next {tar : TarCrate} (faithful : Faithful tar) {place : Place Bytes}
    {path : List FileName} {node : Node Bytes} (some : path ≠ []) (plain : Plain node)
    (vacant : Vacant path place.tree) :
    ∃ after : Place Bytes, (∀ entry, entry ∈ nodes [] after.tree ↔
        entry ∈ nodes [] place.tree ∨ entry = (path, node)) ∧
      ∀ rest, unpackEntries tar (.ok (entryOf (path, node)) :: rest) place =
        unpackEntries tar rest after := by
  obtain ⟨after, unpacked, grown⟩ := faithful.unpack plain vacant
  have kind : (entryOf (path, node)).entryType ≠ .other := by
    cases node with
    | file content => exact EntryType.noConfusion
    | directory => exact EntryType.noConfusion
    | special kind => exact EntryType.noConfusion
  have relative : relativeArchivePath (entryOf (path, node)).path = .ok (pathText path) := by
    cases node with
    | file content => exact relativeArchivePath_componentsOf some
    | directory => exact relativeArchivePath_componentsOf some
    | special kind => exact relativeArchivePath_componentsOf some
  refine ⟨after, grown, fun rest => ?_⟩
  rw [unpackEntries, if_neg kind, relative]
  simp only [unpacked]

/-- The entries of an orderly list are unpacked one after the other. -/
theorem unpack_orderly {tar : TarCrate} (faithful : Faithful tar)
    {seen entries : List (List FileName × Node Bytes)} {place : Place Bytes}
    (held : ∀ entry, entry ∈ nodes [] place.tree ↔ entry ∈ seen)
    (orderly : Orderly seen entries) (plain : ∀ entry ∈ entries, Plain entry.2)
    (distinct : ((seen ++ entries).map Prod.fst).Nodup) :
    ∃ after, unpackEntries tar ((entries.map entryOf).map .ok) place = (.ok (), after) ∧
      ∀ entry, entry ∈ nodes [] after.tree ↔ entry ∈ seen ++ entries := by
  induction entries generalizing seen place with
  | nil =>
    refine ⟨place, rfl, fun entry => ?_⟩
    rw [List.append_nil]
    exact held entry
  | cons first rest ih =>
    obtain ⟨path, node⟩ := first
    have unused : path ∉ seen.map Prod.fst := by
      rw [List.map_append, List.map_cons] at distinct
      intro used
      exact (List.nodup_append'.mp distinct).2.2 used List.mem_cons_self
    obtain ⟨after, grown, step⟩ := unpack_next faithful (path_of_orderly orderly)
      (plain _ List.mem_cons_self) (vacant_next held orderly unused)
    have next : ∀ entry, entry ∈ nodes [] after.tree ↔ entry ∈ seen ++ [(path, node)] := by
      intro entry
      rw [grown, held, List.mem_append, List.mem_singleton]
    rw [← List.singleton_append, ← List.append_assoc] at distinct ⊢
    obtain ⟨last, unpacked, all⟩ := ih next orderly.2
      (fun entry member => plain entry (List.mem_cons_of_mem _ member)) distinct
    refine ⟨last, ?_, all⟩
    rw [List.singleton_append, List.map_cons, List.map_cons, step]
    exact unpacked

/-! ## Collecting -/

section collecting

variable (packages : Packages)

/-- The file that a manifest names for a node. -/
def named : List FileName × Node Bytes → Option SnapshotFile
  | (path, .file content) => some ⟨pathText path, content.length, packages.sha256 content⟩
  | _ => none

def Short : Node Bytes → Prop
  | .file content => content.length ≤ maxSnapshotFileBytes
  | _ => True

variable {packages}

theorem named_path {entry : List FileName × Node Bytes} {file : SnapshotFile}
    (found : named packages entry = some file) : file.path = pathText entry.1 := by
  obtain ⟨path, node⟩ := entry
  cases node with
  | file content =>
    cases found
    rfl
  | directory => cases found
  | special kind => cases found

theorem collectNode_ok {path : List FileName} {node : Node Bytes}
    (below : path ≠ [] ∨ node = .directory) (plain : Plain node) (short : Short node) :
    collectNode packages path node = .ok (named packages (path, node)).toList := by
  cases node with
  | file content =>
    have some : path ≠ [] := by
      rcases below with some | wrong
      · exact some
      · cases wrong
    refine bind_ok.mpr ⟨⟨pathText path, content.length, packages.sha256 content⟩, ?_, rfl⟩
    exact bind_ok.mpr ⟨(), check_ok.mpr short,
      bind_ok.mpr ⟨_, relativeArchivePath_componentsOf some, rfl⟩⟩
  | directory => rfl
  | special kind => exact plain.elim

theorem flatMap_named (entries : List (List FileName × Node Bytes)) :
    entries.flatMap (fun entry => (named packages entry).toList) =
      entries.filterMap (named packages) := by
  rw [List.filterMap_eq_flatMap_toList]

theorem collect_ok {tree : Tree FileName Bytes} (rooted : ([], .directory) ∈ nodes [] tree)
    (fine : ∀ entry ∈ nodes [] tree, (entry.1 ≠ [] ∨ entry.2 = .directory) ∧
      Plain entry.2 ∧ Short entry.2) :
    collectRegularFiles packages tree = .ok ((nodes [] tree).filterMap (named packages)) := by
  obtain ⟨children, rfl⟩ := directory_of_root rooted
  rw [collectRegularFiles, walk_eq, ← flatMap_named]
  refine gather_ok fun entry member => ?_
  obtain ⟨below, plain, short⟩ := fine entry member
  exact collectNode_ok below plain short

/-- The paths of named nodes are distinct if those of the nodes are. -/
theorem named_nodup {entries : List (List FileName × Node Bytes)}
    (distinct : (entries.map Prod.fst).Nodup) (below : ∀ entry ∈ entries, entry.1 ≠ []) :
    ((entries.filterMap (named packages)).map SnapshotFile.path).Nodup := by
  induction entries with
  | nil => exact List.nodup_nil
  | cons first rest ih =>
    rw [List.map_cons, List.nodup_cons] at distinct
    have later := ih distinct.2 fun entry member => below entry (List.mem_cons_of_mem _ member)
    cases file : named packages first with
    | none =>
      rw [List.filterMap_cons_none file]
      exact later
    | some file' =>
      rw [List.filterMap_cons_some file, List.map_cons, List.nodup_cons]
      refine ⟨?_, later⟩
      intro used
      obtain ⟨other, member, same⟩ := List.mem_map.mp used
      obtain ⟨entry, inside, found⟩ := List.mem_filterMap.mp member
      rw [named_path found, named_path file] at same
      have paths := pathText_injective (below entry (List.mem_cons_of_mem _ inside))
        (below first List.mem_cons_self) same
      exact distinct.1 (List.mem_map.mpr ⟨entry, inside, paths⟩)

end collecting

/-! ## Any archive -/

/-- A successful extraction finds exactly the files of its list. -/
theorem extracted_files {packages : Packages} {tar : TarCrate} {archive : Bytes}
    {destination after : Place Bytes} {expected : List SnapshotFile}
    (extracted : extractDeploymentArchive packages tar archive destination expected =
      (.ok (), after)) :
    ∃ found, collectRegularFiles packages after.tree = .ok found ∧ found.Perm expected := by
  unfold extractDeploymentArchive at extracted
  split at extracted
  · cases extracted
  · rw [Prod.mk.injEq] at extracted
    obtain ⟨compared, rfl⟩ := extracted
    obtain ⟨found, collected, same⟩ := bind_ok.mp compared
    exact ⟨found, collected, perm_of_sortByPath (check_ok.mp same)⟩

/-! ## What an archive is made from -/

/-- The nodes of an archive, in the order of its entries. -/
def archiveNodes (data : Tree FileName SourceFile) (secrets : List (FileName × Bytes))
    (config sentinel : Bytes) : List (List FileName × Node Bytes) :=
  ((nodes [appData] data).map fun entry => (entry.1, entry.2.map SourceFile.content)) ++
    [([appSecrets], .directory)] ++
    (secrets.map fun secret => ([appSecrets, secret.1], .file secret.2)) ++
    [([configFile], .file config), ([snapshotSentinelFile], .file sentinel)]

section created

variable {packages : Packages} {tar : TarCrate} {sources : DeploymentSources}

theorem appendBytes_ok {path : List FileName} (some : path ≠ []) {bytes : Bytes} {one : Appended}
    (appended : appendBytes packages path bytes = .ok one) :
    one = (entryOf (path, .file bytes), named packages (path, .file bytes)) := by
  obtain ⟨relative, found, made⟩ := bind_ok.mp appended
  rw [relativeArchivePath_componentsOf some] at found
  cases found
  cases made
  rfl

theorem appendRegular_ok {path : List FileName} (some : path ≠ []) {content : Bytes}
    {one : Appended} (appended : appendRegular packages path content = .ok one) :
    one = (entryOf (path, .file content), named packages (path, .file content)) ∧
      content.length ≤ maxSnapshotFileBytes := by
  obtain ⟨_, short, made⟩ := bind_ok.mp appended
  exact ⟨appendBytes_ok some made, check_ok.mp short⟩

/-- The node of an archive for a node of the data tree. -/
def dataNode (entry : List FileName × Node SourceFile) : List FileName × Node Bytes :=
  (appData :: entry.1, entry.2.map SourceFile.content)

theorem appendNode_ok {relative : List FileName} {node : Node SourceFile} {own : List Appended}
    (appended : appendNode packages relative node = .ok own) :
    own = [(entryOf (dataNode (relative, node)), named packages (dataNode (relative, node)))] ∧
      Plain (dataNode (relative, node)).2 ∧ Short (dataNode (relative, node)).2 := by
  cases node with
  | file file =>
    obtain ⟨_, _, made⟩ := bind_ok.mp appended
    obtain ⟨one, regular, made⟩ := bind_ok.mp made
    obtain ⟨rfl, short⟩ := appendRegular_ok (List.cons_ne_nil _ _) regular
    cases made
    exact ⟨rfl, trivial, short⟩
  | directory =>
    cases appended
    exact ⟨rfl, trivial, trivial⟩
  | special kind => cases appended

theorem dataNodes (data : Tree FileName SourceFile) :
    (nodes [appData] data).map (fun entry => (entry.1, entry.2.map SourceFile.content)) =
      (nodes [] data).map dataNode := by
  rw [nodes_at, List.map_map]
  rfl

theorem appendTree_ok {data : Tree FileName SourceFile} {tree : List Appended}
    (appended : appendTree packages data = .ok tree) :
    ([], .directory) ∈ nodes [] data ∧
      tree = ((nodes [] data).map dataNode).map
        (fun entry => (entryOf entry, named packages entry)) ∧
      ∀ entry ∈ (nodes [] data).map dataNode, Plain entry.2 ∧ Short entry.2 := by
  cases data with
  | file file => cases appended
  | special kind => cases appended
  | directory children =>
    rw [appendTree, walk_eq] at appended
    obtain ⟨same, each⟩ := gathered (fun entry _ own => appendNode_ok) appended
    refine ⟨List.mem_cons_self, ?_, ?_⟩
    · rw [same, List.map_map]
      exact List.map_eq_flatMap.symm
    · intro entry member
      obtain ⟨node, inside, rfl⟩ := List.mem_map.mp member
      exact each node inside

theorem appendSecrets_ok {secret : FileName → Except String Bytes} {names : List FileName}
    {appended : List Appended} (made : appendSecrets packages secret names = .ok appended) :
    ∃ secrets : List (FileName × Bytes), secrets.map Prod.fst = names ∧
      (∀ one ∈ secrets, secret one.1 = .ok one.2 ∧ one.2.length ≤ maxSnapshotFileBytes) ∧
      appended = (secrets.map fun one => ([appSecrets, one.1], Node.file one.2)).map
        fun entry => (entryOf entry, named packages entry) := by
  induction names generalizing appended with
  | nil =>
    cases made
    exact ⟨[], rfl, fun one member => absurd member List.not_mem_nil, rfl⟩
  | cons name rest ih =>
    obtain ⟨content, read, made⟩ := bind_ok.mp made
    obtain ⟨one, regular, made⟩ := bind_ok.mp made
    obtain ⟨others, later, made⟩ := bind_ok.mp made
    obtain ⟨rfl, short⟩ := appendRegular_ok (List.cons_ne_nil _ _) regular
    cases made
    obtain ⟨secrets, names, reads, rfl⟩ := ih later
    refine ⟨(name, content) :: secrets, ?_, List.forall_mem_cons.mpr ⟨⟨read, short⟩, reads⟩, rfl⟩
    rw [List.map_cons, names]

/-- The secrets that a configuration admits. -/
structure Admitted (packages : Packages) (sources : DeploymentSources) (config : Bytes)
    (names : List FileName) : Prop where
  read : sources.config = .ok config
  admits : ∃ text signingKey present, configText config = .ok text ∧
    parseSigningKeyEncryptionConfig packages text = .ok signingKey ∧
    sources.secretPresent signingKeySecret = .ok present ∧
    names = archivedSecrets present (signingKey.bind (·.previousFile)).isSome

/-- What is written when an archive is made. -/
theorem created {archive : Bytes} {files : List SnapshotFile}
    (made : createDeploymentArchive packages tar sources = .ok (archive, files)) :
    ∃ (secrets : List (FileName × Bytes)) (config : Bytes),
      Admitted packages sources config (secrets.map Prod.fst) ∧
      (∀ one ∈ secrets, sources.secret one.1 = .ok one.2) ∧
      ([], .directory) ∈ nodes [] sources.data.tree ∧
      (∀ entry ∈ archiveNodes sources.data.tree secrets config sources.sentinel.1,
        Plain entry.2 ∧ Short entry.2) ∧
      tar.write ((archiveNodes sources.data.tree secrets config sources.sentinel.1).map entryOf) =
        .ok archive ∧
      files = sortByPath ((archiveNodes sources.data.tree secrets config
        sources.sentinel.1).filterMap (named packages)) := by
  obtain ⟨config, read, made⟩ := bind_ok.mp made
  obtain ⟨_, bounded, made⟩ := bind_ok.mp made
  obtain ⟨text, decoded, made⟩ := bind_ok.mp made
  obtain ⟨signingKey, parsed, made⟩ := bind_ok.mp made
  obtain ⟨present, inspected, made⟩ := bind_ok.mp made
  obtain ⟨previous, _, made⟩ := bind_ok.mp made
  obtain ⟨_, _, made⟩ := bind_ok.mp made
  obtain ⟨_, _, made⟩ := bind_ok.mp made
  obtain ⟨tree, walked, made⟩ := bind_ok.mp made
  obtain ⟨ownSecrets, kept, made⟩ := bind_ok.mp made
  obtain ⟨ownConfig, copied, made⟩ := bind_ok.mp made
  obtain ⟨ownSentinel, marked, made⟩ := bind_ok.mp made
  obtain ⟨archive, written, made⟩ := bind_ok.mp made
  cases made
  obtain ⟨rooted, rfl, plainData⟩ := appendTree_ok walked
  obtain ⟨secrets, names, reads, rfl⟩ := appendSecrets_ok kept
  obtain rfl := appendBytes_ok (List.cons_ne_nil _ _) copied
  obtain rfl := appendBytes_ok (List.cons_ne_nil _ _) marked
  have whole : ((nodes [] sources.data.tree).map dataNode).map
        (fun entry => (entryOf entry, named packages entry)) ++ [appendDirectory [appSecrets]] ++
      (secrets.map fun one => ([appSecrets, one.1], Node.file one.2)).map
        (fun entry => (entryOf entry, named packages entry)) ++
      [(entryOf ([configFile], .file config), named packages ([configFile], .file config)),
        (entryOf ([snapshotSentinelFile], .file sources.sentinel.1),
          named packages ([snapshotSentinelFile], .file sources.sentinel.1))] =
      (archiveNodes sources.data.tree secrets config sources.sentinel.1).map
        fun entry => (entryOf entry, named packages entry) := by
    rw [archiveNodes, dataNodes, List.map_append, List.map_append, List.map_append]
    rfl
  rw [whole] at written ⊢
  rw [List.map_map] at written
  refine ⟨secrets, config, ⟨read, text, signingKey, present, decoded, parsed, inspected, names⟩,
    fun one member => (reads one member).1, rooted, ?_, written, ?_⟩
  · rw [archiveNodes, dataNodes]
    intro entry member
    rcases List.mem_append.mp member with member | member
    · rcases List.mem_append.mp member with member | member
      · rcases List.mem_append.mp member with member | member
        · exact plainData entry member
        · rw [List.mem_singleton.mp member]
          exact ⟨trivial, trivial⟩
      · obtain ⟨one, inside, rfl⟩ := List.mem_map.mp member
        exact ⟨trivial, (reads one inside).2⟩
    · rcases List.mem_cons.mp member with rfl | member
      · exact ⟨trivial, Nat.le_trans (check_ok.mp bounded) (by decide)⟩
      · rw [List.mem_singleton.mp member]
        refine ⟨trivial, ?_⟩
        show sources.sentinel.1.length ≤ maxSnapshotFileBytes
        rw [sources.sentinel.2]
        decide
  · rw [List.filterMap_map]
    rfl

end created

/-! ## The round trip -/

def emptyDirectory : Place Bytes := ⟨.directory [], List.nodup_nil, trivial⟩

def root : List FileName × Node Bytes := ([], .directory)

theorem nodes_emptyDirectory (entry : List FileName × Node Bytes) :
    entry ∈ nodes [] emptyDirectory.tree ↔ entry ∈ [root] := Iff.rfl

theorem archiveNodes_orderly (data : Tree FileName SourceFile) (secrets : List (FileName × Bytes))
    (config sentinel : Bytes) : Orderly [root] (archiveNodes data secrets config sentinel) := by
  have below : ∀ {seen : List (List FileName × Node Bytes)} (name : FileName) (node : Node Bytes),
      root ∈ seen → Orderly seen [([name], node)] :=
    fun name node held => ⟨⟨[], name, rfl, held⟩, trivial⟩
  have kept : ∀ {seen : List (List FileName × Node Bytes)}, ([appSecrets], Node.directory) ∈ seen →
      Orderly seen (secrets.map fun secret => ([appSecrets, secret.1], Node.file secret.2)) := by
    induction secrets with
    | nil => exact fun _ => trivial
    | cons one rest ih =>
      exact fun held => ⟨⟨[appSecrets], one.1, rfl, held⟩, ih (List.mem_append_left _ held)⟩
  have tree : Orderly [root] ((nodes [appData] data).map fun entry =>
      (entry.1, entry.2.map SourceFile.content)) := by
    have walked : Orderly [([], Node.directory)] (nodes ([] ++ [appData]) data) :=
      orderly_nodes appData data List.mem_cons_self
    have mapped : Orderly ([([], Node.directory)].map fun entry =>
        (entry.1, Node.map SourceFile.content entry.2)) ((nodes [appData] data).map fun entry =>
          (entry.1, Node.map SourceFile.content entry.2)) := orderly_map rfl walked
    exact mapped
  rw [archiveNodes, List.append_assoc, List.append_assoc]
  refine orderly_append.mpr ⟨tree, orderly_append.mpr ⟨below _ _ List.mem_cons_self,
    orderly_append.mpr ⟨kept (List.mem_append_right _ (List.mem_singleton_self _)), ?_⟩⟩⟩
  rw [← List.singleton_append]
  refine orderly_append.mpr ⟨below _ _ ?_, below _ _ ?_⟩
  · simp
  · simp

theorem archivedSecrets_nodup (present configured : Bool) :
    (archivedSecrets present configured).Nodup := by
  revert present configured
  decide

theorem archiveNodes_nodup {data : Tree FileName SourceFile} (distinct : Distinct data)
    {secrets : List (FileName × Bytes)} (names : (secrets.map Prod.fst).Nodup)
    (config sentinel : Bytes) :
    (([root] ++ archiveNodes data secrets config sentinel).map Prod.fst).Nodup := by
  have tree : (((nodes [appData] data).map fun entry =>
      (entry.1, Node.map SourceFile.content entry.2)).map Prod.fst).Nodup := by
    rw [List.map_map]
    exact paths_nodup [appData] data distinct
  have kept : (((secrets.map fun secret =>
      ([appSecrets, secret.1], Node.file secret.2))).map Prod.fst).Nodup := by
    rw [List.map_map]
    have paths : (secrets.map Prod.fst).map (fun name => [appSecrets, name]) =
        secrets.map (Prod.fst ∘ fun secret => ([appSecrets, secret.1], Node.file secret.2)) := by
      rw [List.map_map]
      rfl
    rw [← paths]
    refine names.map ?_
    intro one other same
    cases same
    rfl
  have inTree : ∀ path ∈ ((nodes [appData] data).map fun entry =>
      (entry.1, Node.map SourceFile.content entry.2)).map Prod.fst, path.head? = some appData := by
    intro path member
    rw [dataNodes, List.map_map] at member
    obtain ⟨entry, _, rfl⟩ := List.mem_map.mp member
    rfl
  have inSecrets : ∀ path ∈ ((secrets.map fun secret =>
      ([appSecrets, secret.1], Node.file secret.2))).map Prod.fst,
      ∃ name, path = [appSecrets, name] := by
    intro path member
    rw [List.map_map] at member
    obtain ⟨one, _, rfl⟩ := List.mem_map.mp member
    exact ⟨one.1, rfl⟩
  rw [archiveNodes]
  simp only [List.map_append, List.map_cons, List.map_nil, List.append_assoc]
  refine List.nodup_append'.mpr ⟨List.nodup_singleton _, List.nodup_append'.mpr ⟨tree,
    List.nodup_append'.mpr ⟨List.nodup_singleton _, List.nodup_append'.mpr ⟨kept, by decide, ?_⟩,
      ?_⟩, ?_⟩, ?_⟩
  · intro path secret other
    obtain ⟨name, rfl⟩ := inSecrets path secret
    simp at other
  · intro path directory other
    rw [List.mem_singleton.mp directory] at other
    rcases List.mem_append.mp other with secret | last
    · obtain ⟨name, wrong⟩ := inSecrets _ secret
      cases wrong
    · revert last
      decide
  · intro path data other
    have first := inTree path data
    rcases List.mem_append.mp other with directory | other
    · rw [List.mem_singleton.mp directory] at first
      revert first
      decide
    · rcases List.mem_append.mp other with secret | last
      · obtain ⟨name, rfl⟩ := inSecrets _ secret
        revert first
        simp only [List.head?_cons]
        decide
      · rcases List.mem_cons.mp last with rfl | last
        · revert first
          decide
        · rw [List.mem_singleton.mp last] at first
          revert first
          decide
  · intro path base other
    rw [List.mem_singleton.mp base] at other
    rcases List.mem_append.mp other with data | other
    · have first := inTree _ data
      cases first
    · rcases List.mem_append.mp other with directory | other
      · cases List.mem_singleton.mp directory
      · rcases List.mem_append.mp other with secret | last
        · obtain ⟨name, wrong⟩ := inSecrets _ secret
          cases wrong
        · revert last
          decide

/-- What an archive holds of its sources. -/
inductive Archived (packages : Packages) (sources : DeploymentSources) :
    List FileName → Node Bytes → Prop where
  | data {below : List FileName} {node : Node SourceFile} :
    (below, node) ∈ nodes [] sources.data.tree →
      Archived packages sources (appData :: below) (node.map SourceFile.content)
  | secrets : Archived packages sources [appSecrets] .directory
  | secret {config : Bytes} {names : List FileName} {name : FileName} {content : Bytes} :
    Admitted packages sources config names → name ∈ names → sources.secret name = .ok content →
      Archived packages sources [appSecrets, name] (.file content)
  | config {content : Bytes} : sources.config = .ok content →
    Archived packages sources [configFile] (.file content)
  | sentinel : Archived packages sources [snapshotSentinelFile] (.file sources.sentinel.1)

theorem Admitted.unique {packages : Packages} {sources : DeploymentSources} {config other : Bytes}
    {names others : List FileName} (one : Admitted packages sources config names)
    (two : Admitted packages sources other others) : config = other ∧ names = others := by
  obtain ⟨read, text, key, present, decoded, parsed, inspected, rfl⟩ := one
  obtain ⟨read', text', key', present', decoded', parsed', inspected', rfl⟩ := two
  cases read.symm.trans read'
  cases decoded.symm.trans decoded'
  cases parsed.symm.trans parsed'
  cases inspected.symm.trans inspected'
  exact ⟨rfl, rfl⟩

theorem mem_archiveNodes {packages : Packages} {sources : DeploymentSources} {config : Bytes}
    {secrets : List (FileName × Bytes)}
    (admitted : Admitted packages sources config (secrets.map Prod.fst))
    (reads : ∀ one ∈ secrets, sources.secret one.1 = .ok one.2) {path : List FileName}
    {node : Node Bytes} :
    (path, node) ∈ archiveNodes sources.data.tree secrets config sources.sentinel.1 ↔
      Archived packages sources path node := by
  rw [archiveNodes, dataNodes]
  constructor
  · intro member
    rcases List.mem_append.mp member with member | member
    · rcases List.mem_append.mp member with member | member
      · rcases List.mem_append.mp member with member | member
        · obtain ⟨⟨below, source⟩, inside, same⟩ := List.mem_map.mp member
          cases same
          exact .data inside
        · cases List.mem_singleton.mp member
          exact .secrets
      · obtain ⟨⟨name, content⟩, inside, same⟩ := List.mem_map.mp member
        cases same
        exact .secret admitted (List.mem_map_of_mem inside) (reads _ inside)
    · rcases List.mem_cons.mp member with same | member
      · cases same
        exact .config admitted.read
      · cases List.mem_singleton.mp member
        exact .sentinel
  · intro archived
    cases archived with
    | data inside =>
      simp only [List.append_assoc]
      exact List.mem_append_left _ (List.mem_map.mpr ⟨_, inside, rfl⟩)
    | secrets => simp
    | secret admits named read =>
      obtain ⟨rfl, rfl⟩ := admitted.unique admits
      obtain ⟨⟨name, content⟩, inside, rfl⟩ := List.mem_map.mp named
      cases (reads _ inside).symm.trans read
      refine List.mem_append_left _ (List.mem_append_right _ ?_)
      exact List.mem_map.mpr ⟨_, inside, rfl⟩
    | config read =>
      cases admitted.read.symm.trans read
      simp
    | sentinel => simp

/-- The files of a place are those named for its nodes. -/
theorem collected {packages : Packages} {place : Place Bytes}
    {entries : List (List FileName × Node Bytes)}
    (held : ∀ entry, entry ∈ nodes [] place.tree ↔ entry ∈ [root] ++ entries)
    (distinct : (([root] ++ entries).map Prod.fst).Nodup)
    (fine : ∀ entry ∈ entries, Plain entry.2 ∧ Short entry.2) :
    ∃ found, collectRegularFiles packages place.tree = .ok found ∧
      found.Perm (entries.filterMap (named packages)) := by
  have below : ∀ entry ∈ entries, entry.1 ≠ [] := by
    intro entry member empty
    rw [List.map_append] at distinct
    refine (List.nodup_append'.mp distinct).2.2 (List.mem_singleton_self _) ?_
    have base : root.1 = entry.1 := empty.symm
    rw [base]
    exact List.mem_map_of_mem member
  have rooted : ([], .directory) ∈ nodes [] place.tree :=
    (held _).mpr (List.mem_append_left _ (List.mem_singleton_self _))
  refine ⟨_, collect_ok rooted ?_, ?_⟩
  · intro entry member
    rcases List.mem_append.mp ((held entry).mp member) with base | inside
    · rw [List.mem_singleton.mp base]
      exact ⟨.inr rfl, trivial, trivial⟩
    · exact ⟨.inl (below entry inside), fine entry inside⟩
  · have own := paths_nodup [] place.tree place.distinct
    have same := (List.perm_ext_iff_of_nodup own.of_map distinct.of_map).mpr held
    exact same.filterMap (named packages)

/-- An archive of nodes, and the files that its manifest names. -/
structure ArchiveOf (packages : Packages) (tar : TarCrate) (archive : Bytes)
    (entries : List (List FileName × Node Bytes)) (files : List SnapshotFile) : Prop where
  orderly : Orderly [root] entries
  distinct : (([root] ++ entries).map Prod.fst).Nodup
  fine : ∀ entry ∈ entries, Plain entry.2 ∧ Short entry.2
  read : tar.entries archive = (entries.map entryOf).map .ok
  files : files = sortByPath (entries.filterMap (named packages))

/-- A place with exactly the nodes of an archive. -/
def Complete (entries : List (List FileName × Node Bytes)) (place : Place Bytes) : Prop :=
  ∀ entry, entry ∈ nodes [] place.tree ↔ entry ∈ [root] ++ entries

section archived

variable {packages : Packages} {tar : TarCrate} {archive : Bytes} {files : List SnapshotFile}
  {entries : List (List FileName × Node Bytes)}

/-- The files of a complete place are those of the manifest. -/
theorem complete_found (held : ArchiveOf packages tar archive entries files) {place : Place Bytes}
    (complete : Complete entries place) :
    ∃ found, collectRegularFiles packages place.tree = .ok found ∧
      sortByPath found = sortByPath files := by
  obtain ⟨found, collects, perm⟩ : ∃ found, collectRegularFiles packages place.tree = .ok found ∧
      found.Perm (entries.filterMap (named packages)) := collected complete held.distinct held.fine
  have paths : (found.map SnapshotFile.path).Nodup :=
    (perm.map SnapshotFile.path).nodup_iff.mpr (named_nodup
      (List.nodup_append'.mp (by rw [← List.map_append]; exact held.distinct)).2.1
      (orderly_paths held.orderly))
  refine ⟨found, collects, sortByPath_of_perm paths ?_⟩
  rw [held.files]
  exact perm.trans (sortByPath_perm _).symm

theorem extracted_complete (faithful : Faithful tar)
    (held : ArchiveOf packages tar archive entries files) :
    ∃ restored, extractDeploymentArchive packages tar archive emptyDirectory files =
      (.ok (), restored) ∧ Complete entries restored := by
  obtain ⟨restored, unpacked, complete⟩ := unpack_orderly faithful nodes_emptyDirectory
    held.orderly (fun entry member => (held.fine entry member).1) held.distinct
  obtain ⟨found, collects, same⟩ := complete_found held complete
  have compared : compareFiles packages restored files = .ok () :=
    bind_ok.mpr ⟨found, collects, check_ok.mpr same⟩
  refine ⟨restored, ?_, complete⟩
  rw [extractDeploymentArchive, held.read, unpacked]
  simp only [compared]

end archived

theorem archiveNodes_last (data : Tree FileName SourceFile) (secrets : List (FileName × Bytes))
    (config sentinel : Bytes) : ∃ front, archiveNodes data secrets config sentinel =
      front ++ [([snapshotSentinelFile], .file sentinel)] := by
  rw [archiveNodes]
  exact ⟨_, (List.append_assoc _ [([configFile], Node.file config)] _).symm⟩

/-- What is made is an archive of its sources. -/
theorem archiveOf_created {packages : Packages} {tar : TarCrate} (faithful : Faithful tar)
    {sources : DeploymentSources} {archive : Bytes} {files : List SnapshotFile}
    (made : createDeploymentArchive packages tar sources = .ok (archive, files)) :
    ∃ entries, ArchiveOf packages tar archive entries files ∧
      (∃ front, entries = front ++ [([snapshotSentinelFile], .file sources.sentinel.1)]) ∧
      ∀ path node, (path, node) ∈ entries ↔ Archived packages sources path node := by
  obtain ⟨secrets, config, admitted, reads, _, fine, written, listed⟩ := created made
  have orderly := archiveNodes_orderly sources.data.tree secrets config sources.sentinel.1
  have names : (secrets.map Prod.fst).Nodup := by
    obtain ⟨_, _, _, present, _, _, _, listed⟩ := admitted
    rw [listed]
    exact archivedSecrets_nodup _ _
  have entries := faithful.read
    (fun entry member => ⟨orderly_paths orderly entry member, (fine entry member).1⟩) written
  exact ⟨_, ⟨orderly, archiveNodes_nodup sources.data.distinct names _ _, fine, entries, listed⟩,
    archiveNodes_last _ _ _ _, fun path node => mem_archiveNodes admitted reads⟩

end NazoAuthCtl.ArchiveRoundTrip
