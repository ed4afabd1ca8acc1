import Mathlib.Data.List.Nodup
import Mathlib.Tactic.Common

/-!
# Trees of directories

A tree is known by its nodes, each at the path that leads to it, a directory before what is in
it. A walk sees the nodes in that order. A tree grows by one leaf below a directory that it has,
and shrinks when what is below some paths is gone.
-/

set_option autoImplicit false
set_option linter.all false

namespace NazoAuthCtl.DirectoryTrees

inductive Special where
  | link
  | other
  deriving DecidableEq, Repr

inductive Tree (ν α : Type) where
  | file (content : α)
  | directory (children : List (ν × Tree ν α))
  | special (kind : Special)

inductive Node (α : Type) where
  | file (content : α)
  | directory
  | special (kind : Special)
  deriving DecidableEq, Repr

variable {ν α β ε : Type}

def Node.map (f : α → β) : Node α → Node β
  | .file content => .file (f content)
  | .directory => .directory
  | .special kind => .special kind

/-- A node by itself. -/
def leaf : Node α → Tree ν α
  | .file content => .file content
  | .directory => .directory []
  | .special kind => .special kind

mutual

/-- The nodes of a tree at a path. -/
def nodes (path : List ν) : Tree ν α → List (List ν × Node α)
  | .file content => [(path, .file content)]
  | .directory children => (path, .directory) :: nodesBelow path children
  | .special kind => [(path, .special kind)]

def nodesBelow (path : List ν) : List (ν × Tree ν α) → List (List ν × Node α)
  | [] => []
  | (name, child) :: rest => nodes (path ++ [name]) child ++ nodesBelow path rest

end

theorem nodes_leaf (path : List ν) (node : Node α) : nodes path (leaf node) = [(path, node)] := by
  cases node with
  | file content => rfl
  | directory => rfl
  | special kind => rfl

theorem mem_nodesBelow {path : List ν} {children : List (ν × Tree ν α)}
    {entry : List ν × Node α} :
    entry ∈ nodesBelow path children ↔
      ∃ child ∈ children, entry ∈ nodes (path ++ [child.1]) child.2 := by
  induction children with
  | nil => simp [nodesBelow]
  | cons child rest ih =>
    obtain ⟨name, tree⟩ := child
    rw [nodesBelow, List.mem_append, ih]
    simp only [List.mem_cons, exists_eq_or_imp]

mutual

/-- A tree moved below a path. -/
theorem nodes_moved (base path : List ν) (tree : Tree ν α) :
    nodes (base ++ path) tree = (nodes path tree).map fun entry => (base ++ entry.1, entry.2) := by
  cases tree with
  | file content => rfl
  | directory children =>
    rw [nodes, nodes, List.map_cons, nodesBelow_moved base path children]
  | special kind => rfl

theorem nodesBelow_moved (base path : List ν) (children : List (ν × Tree ν α)) :
    nodesBelow (base ++ path) children =
      (nodesBelow path children).map fun entry => (base ++ entry.1, entry.2) := by
  cases children with
  | nil => rfl
  | cons child rest =>
    obtain ⟨name, tree⟩ := child
    rw [nodesBelow, nodesBelow, List.map_append, List.append_assoc,
      nodes_moved base (path ++ [name]) tree, nodesBelow_moved base path rest]

end

theorem nodes_at (path : List ν) (tree : Tree ν α) :
    nodes path tree = (nodes [] tree).map fun entry => (path ++ entry.1, entry.2) := by
  have moved := nodes_moved path [] tree
  rw [List.append_nil] at moved
  exact moved

/-- A node of a directory is the directory itself or a node of one of its children. -/
theorem mem_directory {children : List (ν × Tree ν α)} {path : List ν} {node : Node α} :
    (path, node) ∈ nodes [] (.directory children) ↔ (path = [] ∧ node = .directory) ∨
      ∃ child ∈ children, ∃ below, path = child.1 :: below ∧ (below, node) ∈ nodes [] child.2 := by
  rw [nodes, List.mem_cons, mem_nodesBelow]
  constructor
  · rintro (same | ⟨child, member, inside⟩)
    · cases same
      exact .inl ⟨rfl, rfl⟩
    · rw [nodes_at] at inside
      obtain ⟨⟨below, other⟩, held, same⟩ := List.mem_map.mp inside
      cases same
      exact .inr ⟨child, member, below, rfl, held⟩
  · rintro (⟨rfl, rfl⟩ | ⟨child, member, below, rfl, held⟩)
    · exact .inl rfl
    · refine .inr ⟨child, member, ?_⟩
      rw [nodes_at]
      exact List.mem_map.mpr ⟨(below, node), held, rfl⟩

/-- Every tree has a node at its root. -/
theorem root_node (tree : Tree ν α) : ∃ node, ([], node) ∈ nodes [] tree := by
  cases tree with
  | file content => exact ⟨_, List.mem_singleton_self _⟩
  | directory children => exact ⟨_, List.mem_cons_self⟩
  | special kind => exact ⟨_, List.mem_singleton_self _⟩

theorem directory_of_root {tree : Tree ν α} (held : ([], .directory) ∈ nodes [] tree) :
    ∃ children, tree = .directory children := by
  cases tree with
  | file content => simp [nodes] at held
  | directory children => exact ⟨children, rfl⟩
  | special kind => simp [nodes] at held

/-! ## Distinct names -/

mutual

/-- No directory has two children of one name. -/
def Distinct : Tree ν α → Prop
  | .file _ => True
  | .directory children => (children.map Prod.fst).Nodup ∧ DistinctBelow children
  | .special _ => True

def DistinctBelow : List (ν × Tree ν α) → Prop
  | [] => True
  | (_, child) :: rest => Distinct child ∧ DistinctBelow rest

end

theorem distinctBelow_iff {children : List (ν × Tree ν α)} :
    DistinctBelow children ↔ ∀ child ∈ children, Distinct child.2 := by
  induction children with
  | nil => simp [DistinctBelow]
  | cons child rest ih =>
    rw [DistinctBelow, ih, List.forall_mem_cons]

theorem distinct_leaf (node : Node α) : Distinct (leaf node : Tree ν α) := by
  cases node with
  | file content => trivial
  | directory => exact ⟨List.nodup_nil, trivial⟩
  | special kind => trivial

theorem child_unique {children : List (ν × Tree ν α)} (names : (children.map Prod.fst).Nodup)
    {one other : ν × Tree ν α} (member : one ∈ children) (also : other ∈ children)
    (same : one.1 = other.1) : one = other :=
  List.inj_on_of_nodup_map names member also same

mutual

/-- No two nodes are at one path. -/
theorem paths_nodup (path : List ν) (tree : Tree ν α) (distinct : Distinct tree) :
    ((nodes path tree).map Prod.fst).Nodup := by
  cases tree with
  | file content => exact List.nodup_singleton _
  | directory children =>
    rw [nodes, List.map_cons, List.nodup_cons]
    refine ⟨?_, pathsBelow_nodup path children distinct.1 distinct.2⟩
    intro held
    obtain ⟨entry, inside, same⟩ := List.mem_map.mp held
    obtain ⟨child, _, found⟩ := mem_nodesBelow.mp inside
    rw [nodes_at] at found
    obtain ⟨below, _, rfl⟩ := List.mem_map.mp found
    have lengths := congrArg List.length same
    simp only [List.length_append, List.length_singleton] at lengths
    omega
  | special kind => exact List.nodup_singleton _

theorem pathsBelow_nodup (path : List ν) (children : List (ν × Tree ν α))
    (names : (children.map Prod.fst).Nodup) (distinct : DistinctBelow children) :
    ((nodesBelow path children).map Prod.fst).Nodup := by
  cases children with
  | nil => exact List.nodup_nil
  | cons child rest =>
    obtain ⟨name, tree⟩ := child
    rw [List.map_cons, List.nodup_cons] at names
    rw [nodesBelow, List.map_append]
    refine List.nodup_append'.mpr ⟨paths_nodup (path ++ [name]) tree distinct.1,
      pathsBelow_nodup path rest names.2 distinct.2, ?_⟩
    intro shared one other
    obtain ⟨entry, inside, rfl⟩ := List.mem_map.mp one
    obtain ⟨entry', inside', same⟩ := List.mem_map.mp other
    obtain ⟨child', member, found⟩ := mem_nodesBelow.mp inside'
    rw [nodes_at] at inside found
    obtain ⟨below, _, rfl⟩ := List.mem_map.mp inside
    obtain ⟨below', _, rfl⟩ := List.mem_map.mp found
    simp only [List.append_assoc, List.singleton_append] at same
    have first := List.head_eq_of_cons_eq (List.append_cancel_left same)
    exact names.1 (List.mem_map.mpr ⟨child', member, first⟩)

end

/-! ## Walks -/

mutual

/-- A walk gathers what its visitor gives for each node and ends with the first refusal. -/
def walk (visitor : List ν → Node α → Except ε (List β)) (path : List ν) :
    Tree ν α → Except ε (List β)
  | .file content => visitor path (.file content)
  | .directory children => do
    let own ← visitor path .directory
    let below ← walkBelow visitor path children
    .ok (own ++ below)
  | .special kind => visitor path (.special kind)

def walkBelow (visitor : List ν → Node α → Except ε (List β)) (path : List ν) :
    List (ν × Tree ν α) → Except ε (List β)
  | [] => .ok []
  | (name, child) :: rest => do
    let own ← walk visitor (path ++ [name]) child
    let others ← walkBelow visitor path rest
    .ok (own ++ others)

end

/-- What a visitor gives for a list of nodes. -/
def gather (visitor : List ν → Node α → Except ε (List β)) :
    List (List ν × Node α) → Except ε (List β)
  | [] => .ok []
  | entry :: rest => do
    let own ← visitor entry.1 entry.2
    let others ← gather visitor rest
    .ok (own ++ others)

theorem gather_append (visitor : List ν → Node α → Except ε (List β))
    (first second : List (List ν × Node α)) :
    gather visitor (first ++ second) = (do
      let own ← gather visitor first
      let others ← gather visitor second
      .ok (own ++ others)) := by
  induction first with
  | nil =>
    cases gathered : gather visitor second with
    | error refusal => simp [gather, gathered, bind, Except.bind]
    | ok others => simp [gather, gathered, bind, Except.bind]
  | cons entry rest ih =>
    simp only [List.cons_append, gather, ih]
    cases visitor entry.1 entry.2 with
    | error refusal => rfl
    | ok own =>
      cases gather visitor rest with
      | error refusal => rfl
      | ok others =>
        cases gather visitor second with
        | error refusal => rfl
        | ok last => simp [bind, Except.bind]

mutual

theorem walk_eq (visitor : List ν → Node α → Except ε (List β)) (path : List ν)
    (tree : Tree ν α) : walk visitor path tree = gather visitor (nodes path tree) := by
  cases tree with
  | file content =>
    cases visited : visitor path (.file content) with
    | error refusal => simp [walk, nodes, gather, visited, bind, Except.bind]
    | ok own => simp [walk, nodes, gather, visited, bind, Except.bind]
  | directory children =>
    rw [walk, nodes, gather, walkBelow_eq visitor path children]
  | special kind =>
    cases visited : visitor path (.special kind) with
    | error refusal => simp [walk, nodes, gather, visited, bind, Except.bind]
    | ok own => simp [walk, nodes, gather, visited, bind, Except.bind]

theorem walkBelow_eq (visitor : List ν → Node α → Except ε (List β)) (path : List ν)
    (children : List (ν × Tree ν α)) :
    walkBelow visitor path children = gather visitor (nodesBelow path children) := by
  cases children with
  | nil => rfl
  | cons child rest =>
    obtain ⟨name, tree⟩ := child
    rw [walkBelow, nodesBelow, gather_append, walk_eq visitor (path ++ [name]) tree,
      walkBelow_eq visitor path rest]

end

/-- A walk whose visitor refuses no node. -/
theorem gather_ok {visitor : List ν → Node α → Except ε (List β)}
    {gives : List ν × Node α → List β} {entries : List (List ν × Node α)}
    (accepts : ∀ entry ∈ entries, visitor entry.1 entry.2 = .ok (gives entry)) :
    gather visitor entries = .ok (entries.flatMap gives) := by
  induction entries with
  | nil => rfl
  | cons entry rest ih =>
    rw [gather, accepts entry List.mem_cons_self,
      ih fun other member => accepts other (List.mem_cons_of_mem _ member)]
    rfl

/-- What a successful walk gathers, from what its visitor can give. -/
theorem gathered {visitor : List ν → Node α → Except ε (List β)}
    {gives : List ν × Node α → List β} {accepted : List ν × Node α → Prop}
    {entries : List (List ν × Node α)} {found : List β}
    (reads : ∀ entry ∈ entries, ∀ own, visitor entry.1 entry.2 = .ok own →
      own = gives entry ∧ accepted entry)
    (walked : gather visitor entries = .ok found) :
    found = entries.flatMap gives ∧ ∀ entry ∈ entries, accepted entry := by
  induction entries generalizing found with
  | nil =>
    cases walked
    exact ⟨rfl, fun entry member => absurd member List.not_mem_nil⟩
  | cons first rest ih =>
    rw [gather] at walked
    cases visited : visitor first.1 first.2 with
    | error refusal =>
      rw [visited] at walked
      cases walked
    | ok own =>
      rw [visited] at walked
      cases others : gather visitor rest with
      | error refusal =>
        rw [others] at walked
        cases walked
      | ok last =>
        rw [others] at walked
        cases walked
        obtain ⟨same, fine⟩ := reads first List.mem_cons_self own visited
        obtain ⟨below, each⟩ :=
          ih (fun entry member => reads entry (List.mem_cons_of_mem _ member)) others
        rw [List.flatMap_cons, ← same, ← below]
        exact ⟨rfl, List.forall_mem_cons.mpr ⟨fine, each⟩⟩

/-! ## Orderly lists -/

/-- Each node of the list is in a directory that comes before it. -/
def Orderly (seen : List (List ν × Node α)) : List (List ν × Node α) → Prop
  | [] => True
  | (path, node) :: rest =>
    (∃ above name, path = above ++ [name] ∧ (above, .directory) ∈ seen) ∧
      Orderly (seen ++ [(path, node)]) rest

theorem orderly_append {seen first second : List (List ν × Node α)} :
    Orderly seen (first ++ second) ↔ Orderly seen first ∧ Orderly (seen ++ first) second := by
  induction first generalizing seen with
  | nil =>
    rw [List.append_nil]
    exact ⟨fun orderly => ⟨trivial, orderly⟩, And.right⟩
  | cons entry rest ih =>
    rw [List.cons_append, Orderly, ih, Orderly, and_assoc, List.append_assoc]
    exact Iff.rfl

theorem orderly_map {γ : Type} {kind : Node α → Node γ} (keeps : kind .directory = .directory)
    {seen entries : List (List ν × Node α)} (orderly : Orderly seen entries) :
    Orderly (seen.map fun entry => (entry.1, kind entry.2))
      (entries.map fun entry => (entry.1, kind entry.2)) := by
  induction entries generalizing seen with
  | nil => trivial
  | cons first rest ih =>
    obtain ⟨⟨above, name, split, held⟩, later⟩ := orderly
    refine ⟨⟨above, name, split, List.mem_map.mpr ⟨_, held, ?_⟩⟩, ?_⟩
    · rw [keeps]
    · have after := ih later
      rw [List.map_append] at after
      exact after

mutual

theorem orderly_nodes {seen : List (List ν × Node α)} {above : List ν} (name : ν)
    (tree : Tree ν α) (parent : (above, .directory) ∈ seen) :
    Orderly seen (nodes (above ++ [name]) tree) := by
  cases tree with
  | file content => exact ⟨⟨above, name, rfl, parent⟩, trivial⟩
  | directory children =>
    exact ⟨⟨above, name, rfl, parent⟩, orderly_nodesBelow children
      (List.mem_append_right _ (List.mem_singleton_self _))⟩
  | special kind => exact ⟨⟨above, name, rfl, parent⟩, trivial⟩

theorem orderly_nodesBelow {seen : List (List ν × Node α)} {above : List ν}
    (children : List (ν × Tree ν α)) (parent : (above, .directory) ∈ seen) :
    Orderly seen (nodesBelow above children) := by
  cases children with
  | nil => trivial
  | cons child rest =>
    obtain ⟨name, tree⟩ := child
    exact orderly_append.mpr ⟨orderly_nodes name tree parent,
      orderly_nodesBelow rest (List.mem_append_left _ parent)⟩

end

/-! ## Growth -/

/-- A tree with a new leaf at a path. -/
def graft [DecidableEq ν] (node : Node α) : List ν → Tree ν α → Tree ν α
  | [name], .directory children => .directory (children ++ [(name, leaf node)])
  | name :: next :: rest, .directory children =>
    .directory (children.map fun child =>
      if child.1 = name then (child.1, graft node (next :: rest) child.2) else child)
  | _, tree => tree

/-- A new leaf has its place: its directory is there and nothing is at its path. -/
structure Vacant (path : List ν) (tree : Tree ν α) : Prop where
  parent : ∃ above name, path = above ++ [name] ∧ (above, .directory) ∈ nodes [] tree
  unused : ∀ node, (path, node) ∉ nodes [] tree

/-- The next node of an orderly list has its place in a tree of the nodes before it. -/
theorem vacant_next {seen rest : List (List ν × Node α)} {path : List ν} {node : Node α}
    {tree : Tree ν α} (held : ∀ entry, entry ∈ nodes [] tree ↔ entry ∈ seen)
    (orderly : Orderly seen ((path, node) :: rest)) (unused : path ∉ seen.map Prod.fst) :
    Vacant path tree := by
  obtain ⟨⟨above, name, split, parent⟩, _⟩ := orderly
  refine ⟨⟨above, name, split, (held _).mpr parent⟩, ?_⟩
  intro other found
  exact unused (List.mem_map.mpr ⟨_, (held _).mp found, rfl⟩)

theorem vacant_below {name : ν} {rest : List ν} {children : List (ν × Tree ν α)}
    (more : rest ≠ []) (vacant : Vacant (name :: rest) (.directory children)) :
    ∃ tree, (name, tree) ∈ children ∧ Vacant rest tree := by
  obtain ⟨above, last, split, held⟩ := vacant.parent
  cases above with
  | nil =>
    cases split
    exact absurd rfl more
  | cons first above =>
    rw [List.cons_append] at split
    cases split
    rcases mem_directory.mp held with ⟨wrong, _⟩ | ⟨child, member, below, same, inside⟩
    · cases wrong
    · cases same
      refine ⟨child.2, member, ⟨⟨above, last, rfl, inside⟩, ?_⟩⟩
      intro node found
      exact vacant.unused node (mem_directory.mpr (.inr ⟨child, member, _, rfl, found⟩))

section graft

variable [DecidableEq ν]

/-- The new leaf is the one node that the tree gets. -/
theorem mem_graft (node : Node α) {path : List ν} {tree : Tree ν α} (distinct : Distinct tree)
    (vacant : Vacant path tree) {at' : List ν} {other : Node α} :
    (at', other) ∈ nodes [] (graft node path tree) ↔
      (at', other) ∈ nodes [] tree ∨ (at' = path ∧ other = node) := by
  induction path generalizing tree at' with
  | nil =>
    obtain ⟨above, name, split, _⟩ := vacant.parent
    cases above with
    | nil => cases split
    | cons first above => cases split
  | cons name rest ih =>
    have rooted : ∃ children, tree = .directory children := by
      obtain ⟨above, last, _, held⟩ := vacant.parent
      cases tree with
      | file content => simp [nodes] at held
      | directory children => exact ⟨children, rfl⟩
      | special kind => simp [nodes] at held
    obtain ⟨children, rfl⟩ := rooted
    cases rest with
    | nil =>
      rw [graft, mem_directory, mem_directory]
      constructor
      · rintro (root | ⟨child, member, below, rfl, inside⟩)
        · exact .inl (.inl root)
        · rcases List.mem_append.mp member with old | new
          · exact .inl (.inr ⟨child, old, below, rfl, inside⟩)
          · rw [List.mem_singleton.mp new, nodes_leaf] at inside
            cases List.mem_singleton.mp inside
            rw [List.mem_singleton.mp new]
            exact .inr ⟨rfl, rfl⟩
      · rintro ((root | ⟨child, member, below, rfl, inside⟩) | ⟨rfl, rfl⟩)
        · exact .inl root
        · exact .inr ⟨child, List.mem_append_left _ member, below, rfl, inside⟩
        · refine .inr ⟨(name, leaf other), List.mem_append_right _ (List.mem_singleton_self _), [],
            rfl, ?_⟩
          rw [nodes_leaf]
          exact List.mem_singleton_self _
    | cons next rest =>
      obtain ⟨tree, held, within⟩ := vacant_below (List.cons_ne_nil _ _) vacant
      have below : ∀ {path : List ν}, (path, other) ∈ nodes [] (graft node (next :: rest) tree) ↔
          (path, other) ∈ nodes [] tree ∨ (path = next :: rest ∧ other = node) :=
        ih (distinctBelow_iff.mp distinct.2 _ held) within
      rw [graft, mem_directory, mem_directory]
      constructor
      · rintro (root | ⟨child, member, path, rfl, inside⟩)
        · exact .inl (.inl root)
        · obtain ⟨old, kept, rfl⟩ := List.mem_map.mp member
          by_cases here : old.1 = name
          · rw [if_pos here] at inside ⊢
            have same : old = (name, tree) := child_unique distinct.1 kept held here
            rw [same] at inside ⊢
            rcases below.mp inside with before | ⟨rfl, rfl⟩
            · exact .inl (.inr ⟨(name, tree), held, path, rfl, before⟩)
            · exact .inr ⟨rfl, rfl⟩
          · rw [if_neg here] at inside ⊢
            exact .inl (.inr ⟨old, kept, path, rfl, inside⟩)
      · rintro ((root | ⟨child, member, path, rfl, inside⟩) | ⟨rfl, rfl⟩)
        · exact .inl root
        · refine .inr ⟨_, List.mem_map_of_mem member, path, ?_, ?_⟩
          · by_cases here : child.1 = name
            · rw [if_pos here]
            · rw [if_neg here]
          · by_cases here : child.1 = name
            · have same : child = (name, tree) := child_unique distinct.1 member held here
              rw [same] at inside
              rw [if_pos here, same]
              exact below.mpr (.inl inside)
            · rw [if_neg here]
              exact inside
        · refine .inr ⟨_, List.mem_map_of_mem held, next :: rest, ?_, ?_⟩
          · rw [if_pos rfl]
          · rw [if_pos rfl]
            exact below.mpr (.inr ⟨rfl, rfl⟩)

theorem distinct_graft (node : Node α) {path : List ν} {tree : Tree ν α}
    (distinct : Distinct tree) (vacant : Vacant path tree) : Distinct (graft node path tree) := by
  induction path generalizing tree with
  | nil =>
    obtain ⟨above, name, split, _⟩ := vacant.parent
    cases above with
    | nil => cases split
    | cons first above => cases split
  | cons name rest ih =>
    cases tree with
    | file content => cases rest <;> exact distinct
    | special kind => cases rest <;> exact distinct
    | directory children =>
      cases rest with
      | nil =>
        rw [graft, Distinct, distinctBelow_iff, List.map_append, List.forall_mem_append]
        refine ⟨List.nodup_append'.mpr ⟨distinct.1, List.nodup_singleton _, ?_⟩,
          distinctBelow_iff.mp distinct.2, ?_⟩
        · intro shared one other
          obtain ⟨child, member, rfl⟩ := List.mem_map.mp one
          obtain ⟨root, held⟩ := root_node child.2
          refine vacant.unused root (mem_directory.mpr (.inr ⟨child, member, [], ?_, held⟩))
          rw [List.mem_singleton.mp other]
        · intro child new
          rw [List.mem_singleton.mp new]
          exact distinct_leaf node
      | cons next rest =>
        obtain ⟨tree, held, within⟩ := vacant_below (List.cons_ne_nil _ _) vacant
        rw [graft, Distinct, distinctBelow_iff]
        constructor
        · rw [List.map_map]
          have names : (Prod.fst ∘ fun child : ν × Tree ν α => if child.1 = name then
              (child.1, graft node (next :: rest) child.2) else child) = Prod.fst := by
            funext child
            rw [Function.comp_apply]
            split_ifs
            · rfl
            · rfl
          rw [names]
          exact distinct.1
        · intro child member
          obtain ⟨old, kept, rfl⟩ := List.mem_map.mp member
          by_cases here : old.1 = name
          · rw [if_pos here, child_unique distinct.1 kept held here]
            exact ih (distinctBelow_iff.mp distinct.2 _ held) within
          · rw [if_neg here]
            exact distinctBelow_iff.mp distinct.2 _ kept

end graft

/-! ## Removal -/

mutual

/-- What a removal that is cut off has left of a tree. -/
def prune (gone : List ν → Bool) (path : List ν) : Tree ν α → Tree ν α
  | .file content => .file content
  | .directory children => .directory (pruneBelow gone path children)
  | .special kind => .special kind

def pruneBelow (gone : List ν → Bool) (path : List ν) :
    List (ν × Tree ν α) → List (ν × Tree ν α)
  | [] => []
  | (name, child) :: rest =>
    if gone (path ++ [name]) then pruneBelow gone path rest
    else (name, prune gone (path ++ [name]) child) :: pruneBelow gone path rest

end

mutual

theorem prune_nodes (gone : List ν → Bool) (path : List ν) (tree : Tree ν α) :
    (nodes path (prune gone path tree)).Sublist (nodes path tree) := by
  cases tree with
  | file content => exact List.Sublist.refl _
  | directory children => exact (pruneBelow_nodes gone path children).cons_cons _
  | special kind => exact List.Sublist.refl _

theorem pruneBelow_nodes (gone : List ν → Bool) (path : List ν)
    (children : List (ν × Tree ν α)) :
    (nodesBelow path (pruneBelow gone path children)).Sublist (nodesBelow path children) := by
  cases children with
  | nil => exact List.Sublist.refl _
  | cons child rest =>
    obtain ⟨name, tree⟩ := child
    rw [pruneBelow, nodesBelow]
    by_cases removed : gone (path ++ [name]) = true
    · rw [if_pos removed]
      exact (pruneBelow_nodes gone path rest).trans (List.sublist_append_right _ _)
    · rw [if_neg removed, nodesBelow]
      exact (prune_nodes gone (path ++ [name]) tree).append (pruneBelow_nodes gone path rest)

end

theorem pruneBelow_names (gone : List ν → Bool) (path : List ν)
    (children : List (ν × Tree ν α)) :
    ((pruneBelow gone path children).map Prod.fst).Sublist (children.map Prod.fst) := by
  induction children with
  | nil => exact List.Sublist.refl _
  | cons child rest ih =>
    obtain ⟨name, tree⟩ := child
    rw [pruneBelow]
    by_cases removed : gone (path ++ [name]) = true
    · rw [if_pos removed]
      exact ih.cons _
    · rw [if_neg removed]
      exact ih.cons_cons _

mutual

theorem distinct_prune (gone : List ν → Bool) (path : List ν) (tree : Tree ν α)
    (distinct : Distinct tree) : Distinct (prune gone path tree) := by
  cases tree with
  | file content => trivial
  | directory children =>
    exact ⟨distinct.1.sublist (pruneBelow_names gone path children),
      distinctBelow_prune gone path children distinct.2⟩
  | special kind => trivial

theorem distinctBelow_prune (gone : List ν → Bool) (path : List ν)
    (children : List (ν × Tree ν α)) (distinct : DistinctBelow children) :
    DistinctBelow (pruneBelow gone path children) := by
  cases children with
  | nil => trivial
  | cons child rest =>
    obtain ⟨name, tree⟩ := child
    rw [pruneBelow]
    by_cases removed : gone (path ++ [name]) = true
    · rw [if_pos removed]
      exact distinctBelow_prune gone path rest distinct.2
    · rw [if_neg removed]
      exact ⟨distinct_prune gone (path ++ [name]) tree distinct.1,
        distinctBelow_prune gone path rest distinct.2⟩

end

/-- A directory that is left of a removal is still a directory. -/
theorem prune_root (gone : List ν → Bool) {tree : Tree ν α}
    (rooted : ([], .directory) ∈ nodes [] tree) :
    ([], .directory) ∈ nodes [] (prune gone [] tree) := by
  obtain ⟨children, rfl⟩ := directory_of_root rooted
  exact List.mem_cons_self

end NazoAuthCtl.DirectoryTrees
