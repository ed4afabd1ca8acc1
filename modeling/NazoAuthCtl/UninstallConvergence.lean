import Mathlib.Data.List.Infix
import NazoAuthCtl.UninstallGenerations

/-!
# What an uninstall deletes and where it ends

An uninstall is driven again from the state document until its last step takes the document
away. Each attempt meets what the earlier ones left, and each resource is judged only when its
turn comes.
-/

set_option autoImplicit false
set_option linter.all false

namespace NazoAuthCtl.UninstallConvergence

open FaultProgram TargetState TargetWorld JournalCompaction JournaledCalls JournalDispatch
open UninstallGenerations

/-! ## What is left of a file tree -/

/-- Entries have gone, and directories with everything under them. -/
structure Shrunk (before after : Entries) : Prop where
  less : ∀ path, after path = before path ∨ after path = none
  whole : ∀ root, before root = some .directory → after root = none →
    ∀ path, root <+: path → after path = none

section trees

variable {a b c : Entries} {path : Path}

theorem Shrunk.refl (a : Entries) : Shrunk a a where
  less _ := .inl rfl
  whole root there gone := by
    rw [there] at gone
    cases gone

theorem Shrunk.gone (h : Shrunk a b) (absent : a path = none) : b path = none := by
  rcases h.less path with same | none
  · rw [same, absent]
  · exact none

theorem Shrunk.kept (h : Shrunk a b) (present : b path ≠ none) : b path = a path := by
  rcases h.less path with same | none
  · exact same
  · exact absurd none present

theorem Shrunk.trans (first : Shrunk a b) (second : Shrunk b c) : Shrunk a c where
  less path := by
    rcases second.less path with same | none
    · rw [same]
      exact first.less path
    · exact .inr none
  whole root there gone path below := by
    by_cases early : b root = none
    · exact second.gone (first.whole root there early path below)
    · exact second.whole root ((first.kept early).trans there) gone path below

theorem shrunk_dropTree (a : Entries) (path : Path) : Shrunk a (dropTree a path) where
  less other := by
    unfold dropTree
    by_cases below : path <+: other
    · rw [if_pos below]
      exact .inr rfl
    · rw [if_neg below]
      exact .inl rfl
  whole root there gone other below := by
    unfold dropTree at gone ⊢
    by_cases under : path <+: root
    · rw [if_pos (under.trans below)]
    · rw [if_neg under, there] at gone
      cases gone

theorem shrunk_dropPart (a : Entries) (path : Path) (gone : Path → Bool) :
    Shrunk a (dropPart a path gone) where
  less other := by
    unfold dropPart
    by_cases lost : ∃ root ∈ other.inits, path <+: root ∧ root ≠ path ∧ gone root = true
    · rw [if_pos lost]
      exact .inr rfl
    · rw [if_neg lost]
      exact .inl rfl
  whole root there absent other below := by
    unfold dropPart at absent ⊢
    by_cases lost : ∃ top ∈ root.inits, path <+: top ∧ top ≠ path ∧ gone top = true
    · rw [if_pos]
      obtain ⟨top, above, chosen⟩ := lost
      exact ⟨top, (List.mem_inits _ _).mpr (((List.mem_inits _ _).mp above).trans below), chosen⟩
    · rw [if_neg lost, there] at absent
      cases absent

theorem shrunk_dropEntry (a : Entries) (path : Path) (plain : a path ≠ some .directory) :
    Shrunk a (dropEntry a path) where
  less other := by
    unfold dropEntry
    by_cases same : other = path
    · rw [if_pos same]
      exact .inr rfl
    · rw [if_neg same]
      exact .inl rfl
  whole root there gone other below := by
    unfold dropEntry at gone
    by_cases same : root = path
    · rw [same] at there
      exact absurd there plain
    · rw [if_neg same, there] at gone
      cases gone

theorem dropEntry_absent (absent : a path = none) : dropEntry a path = a := by
  funext other
  unfold dropEntry
  by_cases same : other = path
  · rw [if_pos same, same, absent]
  · rw [if_neg same]

theorem Shrunk.chained (h : Shrunk a b) (chain : chained a path) : chained b path := by
  intro above member
  rcases h.less above with same | none
  · rw [same]
    exact chain above member
  · exact .inl none

theorem Shrunk.dropEntry (h : Shrunk a b) (path : Path) :
    Shrunk (dropEntry a path) (dropEntry b path) where
  less other := by
    unfold UninstallGenerations.dropEntry
    by_cases same : other = path
    · rw [if_pos same, if_pos same]
      exact .inl rfl
    · rw [if_neg same, if_neg same]
      exact h.less other
  whole root there gone other below := by
    unfold UninstallGenerations.dropEntry at there gone ⊢
    by_cases same : root = path
    · rw [if_pos same] at there
      cases there
    · rw [if_neg same] at there gone
      have under := h.whole root there gone other below
      by_cases last : other = path
      · rw [if_pos last]
      · rw [if_neg last]
        exact under

theorem Shrunk.dropTree (h : Shrunk a b) (path : Path) :
    Shrunk (dropTree a path) (dropTree b path) where
  less other := by
    unfold UninstallGenerations.dropTree
    by_cases below : path <+: other
    · rw [if_pos below, if_pos below]
      exact .inl rfl
    · rw [if_neg below, if_neg below]
      exact h.less other
  whole root there gone other below := by
    unfold UninstallGenerations.dropTree at there gone ⊢
    by_cases under : path <+: root
    · rw [if_pos under] at there
      cases there
    · rw [if_neg under] at there gone
      have absent := h.whole root there gone other below
      by_cases last : path <+: other
      · rw [if_pos last]
      · rw [if_neg last]
        exact absent

end trees

/-! ## What no attempt touches -/

/-- The paths that an uninstall of the state may remove from these entries. -/
def covers (state : DeploymentState) (entries : Entries) (path : Path) : Prop :=
  (∃ resource ∈ state.resources, deletable resource = true ∧
    (resource.kind = "directory" ∧ entries resource.locator = some .directory ∧
        resource.locator <+: path ∨
      resource.kind = "file" ∧
        (path = resource.locator ∨ path = ownershipMarker resource.locator))) ∨
  path = state.config.reference ∨ path = ownershipMarker state.config.reference

/-- What deletions leave of a host. -/
structure Within (order : UninstallOrder) (state : DeploymentState) (before after : Host) :
    Prop where
  entries : Shrunk before.entries after.entries
  covered : ∀ path, after.entries path ≠ before.entries path → covers state before.entries path
  labelled : ∀ object, before.runtime = some object →
    (∃ kept, after.runtime = some kept ∧ kept.labels = object.labels) ∨
    after.runtime = none ∧ (state.runtime.kind.isContainer = true →
      object.labels.lookup ownershipLabel = some order.deploymentId)
  absent : before.runtime = none → after.runtime = none
  document : after.document = before.document
  completion : after.completion = before.completion

section within

variable {order : UninstallOrder} {state : DeploymentState} {e : Deletion} {s : Host}

theorem Within.refl (host : Host) : Within order state host host where
  entries := .refl _
  covered _ changed := absurd rfl changed
  labelled object present := .inl ⟨object, present, rfl⟩
  absent gone := gone
  document := rfl
  completion := rfl

theorem covers_shrunk {a b : Entries} (h : Shrunk a b) {path : Path}
    (covered : covers state b path) : covers state a path := by
  rcases covered with ⟨resource, member, chosen, ⟨directory, there, under⟩ | file⟩ | config
  · refine .inl ⟨resource, member, chosen, .inl ⟨directory, ?_, under⟩⟩
    exact (h.kept (by simp [there])).symm.trans there
  · exact .inl ⟨resource, member, chosen, .inr file⟩
  · exact .inr config

theorem Within.trans {a b c : Host} (first : Within order state a b)
    (second : Within order state b c) : Within order state a c where
  entries := first.entries.trans second.entries
  covered path changed := by
    by_cases early : b.entries path = a.entries path
    · exact covers_shrunk first.entries (second.covered path (early ▸ changed))
    · exact first.covered path early
  labelled object present := by
    rcases first.labelled object present with ⟨kept, there, same⟩ | ⟨gone, owned⟩
    · rcases second.labelled kept there with ⟨last, last_there, last_same⟩ | ⟨gone, owned⟩
      · exact .inl ⟨last, last_there, last_same.trans same⟩
      · exact .inr ⟨gone, fun container => same ▸ owned container⟩
    · exact .inr ⟨second.absent gone, owned⟩
  absent gone := second.absent (first.absent gone)
  document := second.document.trans first.document
  completion := second.completion.trans first.completion

theorem within_entries {entries : Entries} (shrunk : Shrunk s.entries entries)
    (covered : ∀ path, entries path ≠ s.entries path → covers state s.entries path) :
    Within order state s { s with entries := entries } :=
  ⟨shrunk, covered, fun object present => .inl ⟨object, present, rfl⟩, id, rfl, rfl⟩

theorem within_bind {α β : Type} {p : Deleting α} {q : α → Deleting β}
    (hp : Program.Keeps p (Within order state)) (hq : ∀ a, Program.Keeps (q a) (Within order state)) :
    Program.Keeps (p >>= q) (Within order state) :=
  Program.keeps_bind (R := Within order state) (fun _ _ _ => Within.trans) hp hq

theorem within_require (c : Prop) [Decidable c] (refusal : Refusal) :
    Program.Keeps (Program.require c refusal : Deleting Unit) (Within order state) :=
  Program.keeps_require Within.refl c refusal

theorem within_throw {α : Type} (refusal : Refusal) :
    Program.Keeps (Program.throw refusal : Deleting α) (Within order state) :=
  Program.keeps_throw Within.refl refusal

theorem within_get {α : Type} {f : Host → Deleting α}
    (h : ∀ host, Program.Keeps (f host) (Within order state)) :
    Program.Keeps (Program.get >>= f) (Within order state) :=
  fun e s => h s e s

theorem within_read {α : Type} {label : DeletionEffect} {code : String} (f : Host → α) :
    Program.Keeps (deleting label code (do pure (f (← Program.get)))) (Within order state) :=
  Program.keeps_effect Within.refl _ _ fun _ s => Within.refl s

theorem within_gate {label : DeletionEffect} {code : String} :
    Program.Keeps (deleting label code (pure ()) : Deleting Unit) (Within order state) :=
  Program.keeps_effect Within.refl _ _ fun _ s => Within.refl s

theorem removeDirAll_within {path : Path}
    (owned : ∀ below, path <+: below → covers state s.entries below) :
    Within order state s (removeDirAll path e s).2 := by
  have part : ∀ gone : Path → Bool,
      Within order state s { s with entries := dropPart s.entries path gone } := by
    intro gone
    apply within_entries (shrunk_dropPart s.entries path gone)
    intro other changed
    unfold dropPart at changed
    by_cases lost : ∃ root ∈ other.inits, path <+: root ∧ root ≠ path ∧ gone root = true
    · obtain ⟨root, above, below, _⟩ := lost
      exact owned other (below.trans ((List.mem_inits _ _).mp above))
    · rw [if_neg lost] at changed
      exact absurd rfl changed
  unfold removeDirAll
  cases e.faults (.removeTree path) with
  | none =>
    apply within_entries (shrunk_dropTree s.entries path)
    intro other changed
    unfold dropTree at changed
    by_cases below : path <+: other
    · exact owned other below
    · rw [if_neg below] at changed
      exact absurd rfl changed
  | fail detail => exact part _
  | crash => exact part _

/-- A tree that is there is removed as a whole or in part. -/
theorem removeTree_within {path : Path}
    (owned : ∀ below, path <+: below → covers state s.entries below) :
    Program.Ensures (makeTreeRemovable path >>= fun _ => removeDirAll path) e
      (fun _ s' => Within order state s s') s := by
  have same : Within order state s s := Within.refl s
  simp only [makeTreeRemovable, Program.ensures_bind, Program.ensures_get, Program.after_ok,
    Program.ensures_require, ensures_deleting, Program.ensures_pure, Program.after_error,
    Program.after_crashed]
  exact ⟨fun _ => ⟨fun _ => removeDirAll_within owned, fun _ _ => same, fun _ => same⟩,
    fun _ => same⟩

theorem unlinked_within {path : Path} (owned : ∀ entries, covers state entries path) :
    Program.Keeps (unlinked path) (Within order state) := by
  intro e s
  have dropped (plain : s.entries path ≠ some .directory) : Within order state s
      { s with entries := dropEntry s.entries path } := by
    apply within_entries (shrunk_dropEntry s.entries path plain)
    intro other changed
    unfold dropEntry at changed
    by_cases same : other = path
    · rw [same]
      exact owned s.entries
    · rw [if_neg same] at changed
      exact absurd rfl changed
  unfold unlinked
  rw [Program.run_bind_ok Program.run_get]
  rcases found : s.entries path with _ | _ | _ | _
  · exact Within.refl s
  · exact Within.refl s
  · exact dropped (by simp [found])
  · exact dropped (by simp [found])

theorem removeFileDurable_within {path : Path} (owned : ∀ entries, covers state entries path) :
    Program.Keeps (removeFileDurable path) (Within order state) := by
  apply within_bind within_gate
  intro _
  apply within_get
  intro _
  apply within_bind (within_require _ _)
  intro _
  apply within_bind (Program.keeps_effect Within.refl _ _ (unlinked_within owned))
  intro removed
  exact Program.keeps_onlyIf Within.refl _ within_gate

theorem file_covered {resource : Resource} (member : resource ∈ state.resources)
    (chosen : deletable resource = true) (file : resource.kind = "file") (entries : Entries) :
    covers state entries resource.locator ∧
      covers state entries (ownershipMarker resource.locator) :=
  ⟨.inl ⟨resource, member, chosen, .inr ⟨file, .inl rfl⟩⟩,
    .inl ⟨resource, member, chosen, .inr ⟨file, .inr rfl⟩⟩⟩

theorem reference_covered (entries : Entries) : covers state entries state.config.reference :=
  .inr (.inl rfl)

theorem marker_covered (entries : Entries) :
    covers state entries (ownershipMarker state.config.reference) :=
  .inr (.inr rfl)

theorem deleteManagedResource_within {resource : Resource} (member : resource ∈ state.resources)
    (chosen : deletable resource = true) :
    Program.Keeps (deleteManagedResource resource.kind resource.locator)
      (Within order state) := by
  unfold deleteManagedResource
  by_cases directory : resource.kind = "directory"
  · rw [if_pos directory]
    apply within_bind (within_require _ _)
    intro _ e s
    have same : Within order state s s := Within.refl s
    suffices Program.Ensures _ e (fun _ s' => Within order state s s') s from this
    rw [Program.ensures_bind, ensures_deleting]
    refine ⟨fun _ => ?_, fun _ _ => same, fun _ => same⟩
    show Program.After _ e _ (.ok (s.entries resource.locator)) s
    rw [Program.after_ok]
    rcases found : s.entries resource.locator with _ | _ | _ | _
    · exact same
    · apply removeTree_within
      intro below under
      exact .inl ⟨resource, member, chosen, .inl ⟨directory, found, under⟩⟩
    · exact same
    · exact same
  · rw [if_neg directory]
    by_cases file : resource.kind = "file"
    · rw [if_pos file]
      have own := fun entries => (file_covered member chosen file entries).1
      have marker := fun entries => (file_covered member chosen file entries).2
      apply within_bind (within_require _ _)
      intro _
      apply within_bind (within_read _)
      intro entry
      rcases entry with _ | _ | _ | _
      · exact removeFileDurable_within marker
      · exact within_throw _
      · apply within_bind (removeFileDurable_within own)
        intro _
        exact removeFileDurable_within marker
      · exact within_throw _
    · rw [if_neg file]
      exact within_throw _

theorem deleteResources_within (resources : List Resource)
    (known : ∀ resource ∈ resources, resource ∈ state.resources ∧ deletable resource = true) :
    Program.Keeps (deleteResources resources) (Within order state) := by
  induction resources with
  | nil => exact Program.keeps_pure Within.refl ()
  | cons resource rest ih =>
    obtain ⟨member, chosen⟩ := known resource List.mem_cons_self
    apply within_bind (deleteManagedResource_within member chosen)
    intro _
    exact ih fun other inside => known other (List.mem_cons_of_mem _ inside)

theorem deleteRuntime_within :
    Program.Keeps (deleteRuntime order state.runtime.kind) (Within order state) := by
  intro e s
  suffices Program.Ensures (deleteRuntime order state.runtime.kind) e
      (fun _ after => Within order state s after) s from this
  have same : Within order state s s := Within.refl s
  simp only [deleteRuntime, Program.ensures_bind, ensures_deleting, Program.ensures_pure,
    Program.ensures_get, Program.after_ok, Program.after_error, Program.after_crashed]
  refine ⟨fun _ => ?_, fun _ _ => same, fun _ => same⟩
  rcases found : s.runtime with _ | object
  · exact same
  · have halted : Within order state s { s with runtime := s.runtime.map (·.halted) } := by
      refine ⟨.refl _, fun path changed => absurd rfl changed, ?_, ?_, rfl, rfl⟩
      · intro other present
        exact .inl ⟨other.halted, by simp [present], rfl⟩
      · intro gone
        rw [found] at gone
        cases gone
    simp only [Program.ensures_bind, Program.ensures_require, Program.after_ok,
      Program.after_error, Program.ensures_onlyIf, ensures_deleting, Program.ensures_modify,
      Program.after_crashed]
    refine ⟨fun owned => ?_, fun _ => same⟩
    have removed : Within order state s { s with runtime := none } := by
      refine ⟨.refl _, fun path changed => absurd rfl changed, ?_, fun _ => rfl, rfl, rfl⟩
      intro other present
      rw [found] at present
      cases present
      exact .inr ⟨rfl, owned⟩
    refine ⟨fun container => ⟨fun _ => ⟨fun _ => removed, fun _ _ => halted,
      fun _ => halted⟩, fun _ _ => same, fun _ => same⟩, fun _ => ⟨fun _ => removed,
      fun _ _ => same, fun _ => same⟩⟩

/-- The deletions of an uninstall, without the step that takes the document away. -/
def deletions (order : UninstallOrder) (state : DeploymentState) : Deleting Unit := do
  deleting .privilegeGate "PRIVILEGE_REQUIRED" (pure ())
  deleteRuntime order state.runtime.kind
  deleteResources (state.resources.filter fun resource => deletable resource)
  removeFileDurable state.config.reference
  removeFileDurable (ownershipMarker state.config.reference)

theorem executeDeletion_eq (sha256 : Document → Digest) :
    executeDeletion sha256 order state =
      deletions order state >>= fun _ => removeDeployment sha256 order := by
  unfold executeDeletion deletions
  simp only [Program.bind_assoc]

theorem deletions_within : Program.Keeps (deletions order state) (Within order state) := by
  apply within_bind within_gate
  intro _
  apply within_bind deleteRuntime_within
  intro _
  apply within_bind
  · apply deleteResources_within
    intro resource inside
    simpa using inside
  · intro _
    apply within_bind (removeFileDurable_within reference_covered)
    intro _
    exact removeFileDurable_within marker_covered

end within

/-! ## What lets an attempt through -/

/-- Nothing but a directory or a broken chain above keeps a file from being removed. -/
def Free (entries : Entries) (path : Path) : Prop :=
  chained entries path ∧ entries path ≠ some .directory

/-- The resource can be deleted from these entries. -/
def removable (entries : Entries) (resource : Resource) : Prop :=
  safeManagedPath resource.locator ∧
    (resource.kind = "directory" ∧
        (entries resource.locator = none ∨
          entries resource.locator = some .directory ∧ chained entries resource.locator) ∨
      resource.kind = "file" ∧
        (entries resource.locator = none ∨
          entries resource.locator = some .file ∧ chained entries resource.locator) ∧
        Free (dropEntry entries resource.locator) (ownershipMarker resource.locator))

def without (entries : Entries) (resource : Resource) : Entries :=
  if resource.kind = "directory" then
    if entries resource.locator = none then entries else dropTree entries resource.locator
  else dropEntry (dropEntry entries resource.locator) (ownershipMarker resource.locator)

/-- Each resource can be deleted once those before it are gone. -/
def settles : Entries → List Resource → Prop
  | _, [] => True
  | entries, resource :: rest => removable entries resource ∧ settles (without entries resource) rest

def remaining : Entries → List Resource → Entries
  | entries, [] => entries
  | entries, resource :: rest => remaining (without entries resource) rest

/-- A step has passed just where the condition held, and then it left these entries. -/
structure Tried (e : Deletion) (condition : Entries → Prop) (change : Entries → Entries)
    (s : Host) (o : Outcome Refusal Unit) (after : Host) : Prop where
  passed : o = .ok () → condition s.entries ∧ after = { s with entries := change s.entries }
  clean : e.clean → condition s.entries → o = .ok ()

def Exactly (step : Deleting Unit) (condition : Entries → Prop) (change : Entries → Entries) :
    Prop :=
  ∀ e s, Program.Ensures step e (Tried e condition change s) s

section exact

variable {p q : Deleting Unit} {C D : Entries → Prop} {f g : Entries → Entries} {e : Deletion}
  {s after : Host}

theorem tried_error (refusal : Refusal) (why : e.clean → ¬C s.entries) :
    Tried e C f s (.error refusal) after where
  passed ok := by cases ok
  clean calm holds := absurd holds (why calm)

theorem tried_crashed (why : ¬e.clean) : Tried e C f s .crashed after where
  passed ok := by cases ok
  clean calm := absurd calm why

theorem faulted_loud {label : DeletionEffect} {fault : Fault String}
    (faulted : e.faults label = fault) (bad : fault ≠ .none) : ¬e.clean :=
  fun calm => bad (faulted.symm.trans (calm label))

/-- An effect that fails or is lost ends the step. -/
theorem tried_deleting {α : Type} {label : DeletionEffect} {code : String} {body : Deleting α}
    {next : α → Deleting Unit}
    (taken : Program.Ensures body e (Program.After next e (Tried e C f s)) s) :
    Program.Ensures (deleting label code body >>= next) e (Tried e C f s) s := by
  rw [Program.ensures_bind, ensures_deleting]
  refine ⟨fun _ => taken, ?_, ?_⟩
  · intro d faulted
    exact tried_error _ fun calm => absurd calm (faulted_loud faulted (by simp))
  · intro faulted
    exact tried_crashed (faulted_loud faulted (by simp))

theorem Exactly.bind (first : Exactly p C f) (second : Exactly q D g) :
    Exactly (p >>= fun _ => q) (fun a => C a ∧ D (f a)) (fun a => g (f a)) := by
  intro e s
  rw [Program.ensures_bind]
  apply (first e s).mono
  intro o s' tried
  cases o with
  | ok u =>
    obtain ⟨holds, same⟩ := tried.passed rfl
    rw [Program.after_ok]
    apply (second e s').mono
    intro o' s'' later
    constructor
    · intro ok
      obtain ⟨holds', same'⟩ := later.passed ok
      rw [same] at holds' same'
      exact ⟨⟨holds, holds'⟩, same'⟩
    · intro calm both
      apply later.clean calm
      rw [same]
      exact both.2
  | error refusal => exact tried_error _ fun calm both => by cases tried.clean calm both.1
  | crashed => exact ⟨fun ok => (by cases ok), fun calm both => (by cases tried.clean calm both.1)⟩

theorem exactly_gate {label : DeletionEffect} {code : String} :
    Exactly (deleting label code (pure ())) (fun _ => True) id := by
  intro e s
  apply (ensures_deleting _ _ _ _).mpr
  refine ⟨fun _ => ⟨fun _ => ⟨trivial, rfl⟩, fun _ _ => rfl⟩, ?_, ?_⟩
  · intro d faulted
    exact tried_error _ fun calm => absurd calm (faulted_loud faulted (by simp))
  · intro faulted
    exact tried_crashed (faulted_loud faulted (by simp))

theorem Exactly.guard (second : Exactly q D g) (c : Entries → Prop)
    [∀ a, Decidable (c a)] (refusal : Refusal) :
    Exactly (Program.get >>= fun host => Program.require (c host.entries) refusal >>= fun _ => q)
      (fun a => c a ∧ D a) g := by
  intro e s
  rw [Program.ensures_bind, Program.ensures_get, Program.after_ok, Program.ensures_bind,
    Program.ensures_require]
  constructor
  · intro holds
    rw [Program.after_ok]
    apply (second e s).mono
    intro o s' tried
    constructor
    · intro ok
      obtain ⟨more, same⟩ := tried.passed ok
      exact ⟨⟨holds, more⟩, same⟩
    · intro calm both
      exact tried.clean calm both.2
  · intro fails
    exact tried_error _ fun _ both => fails both.1

theorem Exactly.change_congr {h : Entries → Entries} (exact : Exactly p C f)
    (same : ∀ a, C a → f a = h a) : Exactly p C h := by
  intro e s
  apply (exact e s).mono
  intro o s' tried
  refine ⟨fun ok => ?_, tried.clean⟩
  obtain ⟨holds, left⟩ := tried.passed ok
  exact ⟨holds, same _ holds ▸ left⟩

theorem Exactly.condition_congr (exact : Exactly p C f) (same : ∀ a, C a ↔ D a) :
    Exactly p D f := by
  intro e s
  apply (exact e s).mono
  intro o s' tried
  exact ⟨fun ok => ⟨(same _).mp (tried.passed ok).1, (tried.passed ok).2⟩,
    fun calm holds => tried.clean calm ((same _).mpr holds)⟩

end exact

section unlinked

variable {path : Path} {e : Deletion} {s : Host}

theorem unlinked_absent (absent : s.entries path = none) :
    unlinked path e s = (.ok false, s) := by
  unfold unlinked
  rw [Program.run_bind_ok Program.run_get, absent]
  rfl

theorem unlinked_directory (there : s.entries path = some .directory) :
    unlinked path e s = (.error ⟨"OPERATION_INVALID", "failed to remove: is a directory"⟩, s) := by
  unfold unlinked
  rw [Program.run_bind_ok Program.run_get, there]
  rfl

theorem unlinked_plain (there : s.entries path ≠ none) (plain : s.entries path ≠ some .directory) :
    unlinked path e s = (.ok true, { s with entries := dropEntry s.entries path }) := by
  unfold unlinked
  rw [Program.run_bind_ok Program.run_get]
  rcases found : s.entries path with _ | _ | _ | _
  · exact absurd found there
  · exact absurd found plain
  · rfl
  · rfl

end unlinked

section steps

theorem unlink_exact (path : Path) :
    Exactly (deleting (.unlink path) "OPERATION_INVALID" (unlinked path) >>= fun removed =>
        Program.onlyIf (removed = true)
          (deleting (.syncParent path) "OPERATION_INVALID" (pure ())))
      (fun a => a path ≠ some .directory) (fun a => dropEntry a path) := by
  intro e s
  apply tried_deleting
  by_cases absent : s.entries path = none
  · unfold Program.Ensures
    rw [unlinked_absent absent]
    exact ⟨fun _ => ⟨by simp [absent], by rw [dropEntry_absent absent]; rfl⟩, fun _ _ => rfl⟩
  · by_cases there : s.entries path = some .directory
    · unfold Program.Ensures
      rw [unlinked_directory there]
      exact tried_error _ fun _ plain => plain there
    · have gate : Exactly (deleting (.syncParent path) "OPERATION_INVALID" (pure ()))
          (fun _ => True) id := exactly_gate
      have synced := gate e { s with entries := dropEntry s.entries path }
      unfold Program.Ensures
      rw [unlinked_plain absent there]
      exact ⟨fun ok => ⟨there, (synced.passed ok).2⟩, fun calm _ => synced.clean calm trivial⟩

theorem removeFileDurable_exact (path : Path) :
    Exactly (removeFileDurable path) (fun a => Free a path) (fun a => dropEntry a path) := by
  have whole : Exactly (removeFileDurable path)
      (fun a => True ∧ chained a path ∧ a path ≠ some .directory) (fun a => dropEntry a path) :=
    exactly_gate.bind (Exactly.guard (unlink_exact path) (fun a => chained a path) _)
  exact whole.condition_congr fun a => by simp [Free]

theorem removeTree_exact (path : Path) :
    Exactly (makeTreeRemovable path >>= fun _ => removeDirAll path)
      (fun a => chained a path) (fun a => dropTree a path) := by
  have removed : Exactly (removeDirAll path) (fun _ => True) (fun a => dropTree a path) := by
    intro e s
    unfold Program.Ensures removeDirAll
    cases faulted : e.faults (.removeTree path) with
    | none => exact ⟨fun _ => ⟨trivial, rfl⟩, fun _ _ => rfl⟩
    | fail detail =>
      exact tried_error _ fun calm => absurd calm (faulted_loud faulted (by simp))
    | crash => exact tried_crashed (faulted_loud faulted (by simp))
  have prepared : Exactly (makeTreeRemovable path) (fun a => chained a path ∧ True) id :=
    Exactly.guard exactly_gate (fun a => chained a path) _
  exact (prepared.bind removed).condition_congr fun a => by simp

theorem directory_exact (path : Path) :
    Exactly (deleteManagedResource "directory" path)
      (fun a => safeManagedPath path ∧
        (a path = none ∨ a path = some .directory ∧ chained a path))
      (fun a => if a path = none then a else dropTree a path) := by
  intro e s
  unfold deleteManagedResource
  rw [if_pos rfl, Program.ensures_bind, Program.ensures_require]
  refine ⟨fun safe => ?_, fun unsafePath => tried_error _ fun _ both => unsafePath both.1⟩
  rw [Program.after_ok]
  apply tried_deleting
  show Program.After _ e _ (.ok (s.entries path)) s
  rw [Program.after_ok]
  rcases found : s.entries path with _ | _ | _ | _
  · refine ⟨fun _ => ⟨⟨safe, .inl found⟩, ?_⟩, fun _ _ => rfl⟩
    rw [if_pos found]
    rfl
  · apply (removeTree_exact path e s).mono
    intro o s' tried
    constructor
    · intro ok
      obtain ⟨chain, left⟩ := tried.passed ok
      refine ⟨⟨safe, .inr ⟨found, chain⟩⟩, ?_⟩
      rw [if_neg (by simp [found])]
      exact left
    · intro calm both
      apply tried.clean calm
      rcases both.2 with absent | there
      · rw [found] at absent
        cases absent
      · exact there.2
  · exact tried_error _ fun _ both => by simp [found] at both
  · exact tried_error _ fun _ both => by simp [found] at both

theorem file_exact (path : Path) :
    Exactly (deleteManagedResource "file" path)
      (fun a => safeManagedPath path ∧
        (a path = none ∨ a path = some .file ∧ chained a path) ∧
        Free (dropEntry a path) (ownershipMarker path))
      (fun a => dropEntry (dropEntry a path) (ownershipMarker path)) := by
  intro e s
  unfold deleteManagedResource
  rw [if_neg (by decide), if_pos rfl, Program.ensures_bind, Program.ensures_require]
  refine ⟨fun safe => ?_, fun unsafePath => tried_error _ fun _ both => unsafePath both.1⟩
  rw [Program.after_ok]
  apply tried_deleting
  show Program.After _ e _ (.ok (s.entries path)) s
  rw [Program.after_ok]
  rcases found : s.entries path with _ | _ | _ | _
  · apply (removeFileDurable_exact (ownershipMarker path) e s).mono
    intro o s' tried
    refine ⟨fun ok => ?_, fun calm both => ?_⟩
    · obtain ⟨free, left⟩ := tried.passed ok
      rw [← dropEntry_absent found] at free left
      exact ⟨⟨safe, .inl found, free⟩, left⟩
    · apply tried.clean calm
      have free := both.2.2
      rw [dropEntry_absent found] at free
      exact free
  · exact tried_error _ fun _ both => by simp [found] at both
  · apply ((removeFileDurable_exact path).bind (removeFileDurable_exact _) e s).mono
    intro o s' tried
    refine ⟨fun ok => ?_, fun calm both => ?_⟩
    · obtain ⟨⟨free, marker⟩, left⟩ := tried.passed ok
      exact ⟨⟨safe, .inr ⟨found, free.1⟩, marker⟩, left⟩
    · apply tried.clean calm
      rcases both.2.1 with absent | there
      · rw [found] at absent
        cases absent
      · exact ⟨⟨there.2, by simp [found]⟩, both.2.2⟩
  · exact tried_error _ fun _ both => by simp [found] at both

theorem deleteManagedResource_exact (resource : Resource) :
    Exactly (deleteManagedResource resource.kind resource.locator)
      (fun a => removable a resource) (fun a => without a resource) := by
  by_cases directory : resource.kind = "directory"
  · rw [directory]
    have whole := directory_exact resource.locator
    apply (whole.condition_congr fun a => ?_).change_congr
    · intro a _
      rw [without, if_pos directory]
    · simp [removable, directory]
  · by_cases file : resource.kind = "file"
    · rw [file]
      have whole := file_exact resource.locator
      apply (whole.condition_congr fun a => ?_).change_congr
      · intro a _
        rw [without, if_neg directory]
      · simp [removable, file]
    · intro e s
      unfold deleteManagedResource
      rw [if_neg directory, if_neg file]
      exact tried_error _ fun _ both => by simp [removable, directory, file] at both

theorem deleteResources_exact (resources : List Resource) :
    Exactly (deleteResources resources) (fun a => settles a resources)
      (fun a => remaining a resources) := by
  induction resources with
  | nil => exact fun e s => ⟨fun _ => ⟨trivial, rfl⟩, fun _ _ => rfl⟩
  | cons resource rest ih => exact (deleteManagedResource_exact resource).bind ih

end steps

/-! ## One whole pass -/

/-- The runtime object may be removed. -/
def owned (order : UninstallOrder) (state : DeploymentState) (host : Host) : Prop :=
  ∀ object, host.runtime = some object → state.runtime.kind.isContainer = true →
    object.labels.lookup ownershipLabel = some order.deploymentId

def chosen (state : DeploymentState) : List Resource :=
  state.resources.filter fun resource => deletable resource

/-- Everything that the state declares can be deleted from these entries. -/
def clears (state : DeploymentState) (entries : Entries) : Prop :=
  settles entries (chosen state) ∧
    Free (remaining entries (chosen state)) state.config.reference ∧
    Free (dropEntry (remaining entries (chosen state)) state.config.reference)
      (ownershipMarker state.config.reference)

def cleared (state : DeploymentState) (entries : Entries) : Entries :=
  dropEntry (dropEntry (remaining entries (chosen state)) state.config.reference)
    (ownershipMarker state.config.reference)

section pass

variable {order : UninstallOrder} {state : DeploymentState} {e : Deletion} {s : Host}
  {a b : Entries} {resource : Resource}

theorem deleteRuntime_tried :
    Program.Ensures (deleteRuntime order state.runtime.kind) e
      (fun o s' => (o = .ok () → owned order state s ∧ s' = { s with runtime := none }) ∧
        (e.clean → owned order state s → o = .ok ())) s := by
  simp only [deleteRuntime, Program.ensures_bind, ensures_deleting, Program.ensures_pure,
    Program.ensures_get, Program.after_ok, Program.after_error, Program.after_crashed]
  have failed : ∀ {label : DeletionEffect} {fault : Fault String} {o : Outcome Refusal Unit}
      {s' : Host}, e.faults label = fault → fault ≠ .none → o ≠ .ok () →
      (o = .ok () → owned order state s ∧ s' = { s with runtime := none }) ∧
        (e.clean → owned order state s → o = .ok ()) := by
    intro label fault o s' faulted bad stopped
    exact ⟨fun ok => absurd ok stopped, fun calm => absurd calm (faulted_loud faulted bad)⟩
  refine ⟨fun _ => ?_, fun _ faulted => failed faulted (by simp) (by simp),
    fun faulted => failed faulted (by simp) (by simp)⟩
  rcases found : s.runtime with _ | object
  · refine ⟨fun _ => ⟨fun object there => ?_, ?_⟩, fun _ _ => rfl⟩
    · rw [found] at there
      cases there
    · show s = { s with runtime := none }
      rw [← found]
  · simp only [Program.ensures_bind, Program.ensures_require, Program.after_ok,
      Program.after_error, Program.ensures_onlyIf, ensures_deleting, Program.ensures_modify,
      Program.after_crashed]
    refine ⟨fun label => ?_, fun foreign => ⟨fun ok => (by cases ok), fun _ own => ?_⟩⟩
    · have own : owned order state s := by
        intro other there
        rw [found] at there
        cases there
        exact label
      refine ⟨fun _ => ⟨fun _ => ⟨fun _ => ⟨fun _ => ⟨own, trivial⟩, fun _ _ => trivial⟩,
        fun _ faulted => failed faulted (by simp) (by simp),
        fun faulted => failed faulted (by simp) (by simp)⟩,
        fun _ faulted => failed faulted (by simp) (by simp),
        fun faulted => failed faulted (by simp) (by simp)⟩,
        fun _ => ⟨fun _ => ⟨fun _ => ⟨own, trivial⟩, fun _ _ => trivial⟩,
        fun _ faulted => failed faulted (by simp) (by simp),
        fun faulted => failed faulted (by simp) (by simp)⟩⟩
    · exact absurd (own object found) foreign

theorem files_exact :
    Exactly (deleteResources (chosen state) >>= fun _ =>
        removeFileDurable state.config.reference >>= fun _ =>
        removeFileDurable (ownershipMarker state.config.reference))
      (fun a => clears state a) (fun a => cleared state a) :=
  (deleteResources_exact (chosen state)).bind
    ((removeFileDurable_exact state.config.reference).bind (removeFileDurable_exact _))

/-- A pass of deletions ends well just where everything can be deleted. -/
theorem deletions_tried :
    Program.Ensures (deletions order state) e
      (fun o s' => (o = .ok () → owned order state s ∧ clears state s.entries ∧
          s' = { s with runtime := none, entries := cleared state s.entries }) ∧
        (e.clean → owned order state s → clears state s.entries → o = .ok ())) s := by
  unfold deletions
  rw [Program.ensures_bind, ensures_deleting]
  refine ⟨fun _ => ?_, fun _ faulted => ?_, fun faulted => ?_⟩
  · rw [Program.ensures_pure, Program.after_ok, Program.ensures_bind]
    apply deleteRuntime_tried.mono
    intro o s' runtime
    cases o with
    | ok u =>
      obtain ⟨own, same⟩ := runtime.1 rfl
      rw [Program.after_ok]
      apply (files_exact e s').mono
      intro o' s'' tried
      subst same
      refine ⟨fun ok => ?_, fun calm _ clear => tried.clean calm clear⟩
      obtain ⟨clear, left⟩ := tried.passed ok
      exact ⟨own, clear, left⟩
    | error refusal =>
      exact ⟨fun ok => (by cases ok), fun calm own _ => (by cases runtime.2 calm own)⟩
    | crashed =>
      exact ⟨fun ok => (by cases ok), fun calm own _ => (by cases runtime.2 calm own)⟩
  · exact ⟨fun ok => (by cases ok), fun calm => absurd calm (faulted_loud faulted (by simp))⟩
  · exact ⟨fun ok => (by cases ok), fun calm => absurd calm (faulted_loud faulted (by simp))⟩

/-! What goes missing by itself does not keep the rest from being deleted. -/

theorem Free.shrunk (h : Shrunk a b) {path : Path} (free : Free a path) : Free b path := by
  refine ⟨h.chained free.1, ?_⟩
  intro there
  apply free.2
  rw [← h.kept (by simp [there])]
  exact there

theorem removable_shrunk (h : Shrunk a b) (can : removable a resource) : removable b resource := by
  have known : ∀ kind : EntryKind,
      (a resource.locator = none ∨
        a resource.locator = some kind ∧ chained a resource.locator) →
      (b resource.locator = none ∨
        b resource.locator = some kind ∧ chained b resource.locator) := by
    intro kind entry
    rcases h.less resource.locator with same | gone
    · rw [same]
      exact entry.imp_right fun there => ⟨there.1, h.chained there.2⟩
    · exact .inl gone
  obtain ⟨safe, ⟨directory, entry⟩ | ⟨file, entry, marker⟩⟩ := can
  · exact ⟨safe, .inl ⟨directory, known _ entry⟩⟩
  · exact ⟨safe, .inr ⟨file, known _ entry, marker.shrunk (h.dropEntry _)⟩⟩

theorem without_shrunk (h : Shrunk a b) (can : removable a resource) :
    Shrunk (without a resource) (without b resource) := by
  unfold without
  by_cases directory : resource.kind = "directory"
  · rw [if_pos directory, if_pos directory]
    by_cases absent : a resource.locator = none
    · rw [if_pos absent, if_pos (h.gone absent)]
      exact h
    · rw [if_neg absent]
      by_cases gone : b resource.locator = none
      · rw [if_pos gone]
        have there : a resource.locator = some .directory := by
          obtain ⟨_, ⟨_, entry⟩ | ⟨file, _⟩⟩ := can
          · exact (entry.resolve_left absent).1
          · rw [directory] at file
            exact absurd file (by decide)
        constructor
        · intro path
          unfold dropTree
          by_cases below : resource.locator <+: path
          · exact .inr (h.whole _ there gone path below)
          · rw [if_neg below]
            exact h.less path
        · intro root here lost path below
          unfold dropTree at here
          by_cases under : resource.locator <+: root
          · rw [if_pos under] at here
            cases here
          · rw [if_neg under] at here
            exact h.whole root here lost path below
      · rw [if_neg gone]
        exact h.dropTree _
  · rw [if_neg directory, if_neg directory]
    exact (h.dropEntry _).dropEntry _

theorem settles_shrunk (resources : List Resource) (h : Shrunk a b) (can : settles a resources) :
    settles b resources ∧ Shrunk (remaining a resources) (remaining b resources) := by
  induction resources generalizing a b with
  | nil => exact ⟨trivial, h⟩
  | cons resource rest ih =>
    obtain ⟨first, later⟩ := can
    obtain ⟨settled, left⟩ := ih (without_shrunk h first) later
    exact ⟨⟨removable_shrunk h first, settled⟩, left⟩

theorem clears_shrunk (h : Shrunk a b) (can : clears state a) : clears state b := by
  obtain ⟨settled, reference, marker⟩ := can
  obtain ⟨settled', left⟩ := settles_shrunk _ h settled
  exact ⟨settled', reference.shrunk left, marker.shrunk (left.dropEntry _)⟩

theorem owned_within {before after : Host} (h : Within order state before after)
    (own : owned order state before) : owned order state after := by
  intro object there container
  rcases known : before.runtime with _ | original
  · rw [h.absent known] at there
    cases there
  · rcases h.labelled original known with ⟨kept, same, labels⟩ | ⟨gone, _⟩
    · rw [there] at same
      cases same
      rw [labels]
      exact own original known container
    · rw [gone] at there
      cases there

end pass

/-! ## One attempt -/

section attempt

variable {sha256 : Document → Digest} {order : UninstallOrder} {e : Deletion} {s : Host}
  {document : Document}

def ownCompletion (sha256 : Document → Digest) (order : UninstallOrder) (document : Document) :
    UninstallCompletion :=
  ⟨order.deploymentId, order.operationId, document.state.config.revision, sha256 document⟩

/-- The completion record is written before the document goes. -/
structure Taken (sha256 : Document → Digest) (order : UninstallOrder) (document : Document)
    (e : Deletion) (before : Host) (o : Outcome Refusal Unit) (after : Host) : Prop where
  shape : after = before ∨
    after = { before with completion := some (ownCompletion sha256 order document) } ∨
    after = { before with
      completion := some (ownCompletion sha256 order document), document := none }
  gone : o = .ok () → after.document = none
  clean : e.clean → o = .ok ()

theorem removeDeployment_tried (present : s.document = some document)
    (revision : document.state.config.revision = order.expectedRevision) :
    Program.Ensures (removeDeployment sha256 order) e (Taken sha256 order document e s) s := by
  have failed : ∀ {label : DeletionEffect} {d : String} {refusal : Refusal} {after : Host},
      e.faults label = .fail d →
      (after = s ∨ after = { s with completion := some (ownCompletion sha256 order document) }) →
      Taken sha256 order document e s (.error refusal) after := by
    intro label d refusal after faulted shape
    exact ⟨shape.imp_right .inl, fun ok => (by cases ok),
      fun calm => absurd calm (faulted_loud faulted (by simp))⟩
  have lost : ∀ {label : DeletionEffect} {after : Host}, e.faults label = .crash →
      (after = s ∨ after = { s with completion := some (ownCompletion sha256 order document) }) →
      Taken sha256 order document e s .crashed after := by
    intro label after faulted shape
    exact ⟨shape.imp_right .inl, fun ok => (by cases ok),
      fun calm => absurd calm (faulted_loud faulted (by simp))⟩
  simp only [removeDeployment, Program.ensures_bind, ensures_deleting, Program.ensures_pure,
    Program.ensures_get, Program.after_ok, Program.after_error, Program.after_crashed, present,
    Program.ensures_require, Program.ensures_modify]
  refine ⟨fun _ => ⟨fun _ => ⟨fun _ => ⟨fun _ => ⟨fun _ => ?_, fun _ faulted => ?_,
    fun faulted => ?_⟩, fun _ faulted => failed faulted (.inl rfl),
    fun faulted => lost faulted (.inl rfl)⟩, fun other => absurd revision other⟩,
    fun _ faulted => failed faulted (.inl rfl), fun faulted => lost faulted (.inl rfl)⟩,
    fun _ faulted => failed faulted (.inl rfl), fun faulted => lost faulted (.inl rfl)⟩
  · exact ⟨.inr (.inr rfl), fun _ => rfl, fun _ => rfl⟩
  · exact failed faulted (.inr (by rw [present]; rfl))
  · exact lost faulted (.inr (by rw [present]; rfl))

/-- What an attempt on a document leaves, given what its deletions left. -/
structure Left (sha256 : Document → Digest) (order : UninstallOrder) (document : Document)
    (before after : Host) : Prop where
  within : Within order document.state before
    { after with document := before.document, completion := before.completion }
  records : after.document = before.document ∧ after.completion = before.completion ∨
    after.completion = some (ownCompletion sha256 order document) ∧
      (after.document = before.document ∨ after.document = none)

theorem Left.of_within {after : Host} (h : Within order document.state s after) :
    Left sha256 order document s after where
  within := by
    rw [← h.document, ← h.completion]
    exact h
  records := .inl ⟨h.document, h.completion⟩

/-- An attempt that no completion record of its own answers. -/
structure Attempted (sha256 : Document → Digest) (order : UninstallOrder) (document : Document)
    (e : Deletion) (before : Host) {α : Type} (o : Outcome Refusal α) (after : Host) : Prop where
  left : Left sha256 order document before after
  passed : (∃ a, o = .ok a) → owned order document.state before ∧
    clears document.state before.entries ∧
    after.entries = cleared document.state before.entries ∧ after.runtime = none ∧
    after.document = none
  clean : e.clean → owned order document.state before → clears document.state before.entries →
    ∃ a, o = .ok a
  stays : (deletions order document.state e before).2 = before →
    (deletions order document.state e before).1 ≠ .ok () → after = before
  reached : e.clean →
    after.entries = (deletions order document.state e before).2.entries ∧
    after.runtime = (deletions order document.state e before).2.runtime

/-- The same attempt with another result where it did not pass. -/
theorem Attempted.result {α β : Type} {o : Outcome Refusal α} {o' : Outcome Refusal β}
    {after : Host} (h : Attempted sha256 order document e s o after)
    (same : (∃ a, o = .ok a) ↔ ∃ b, o' = .ok b) : Attempted sha256 order document e s o' after :=
  ⟨h.left, fun ok => h.passed (same.mpr ok), fun calm own clear => same.mp (h.clean calm own clear),
    h.stays, h.reached⟩

theorem attempted_stopped {α : Type} {o : Outcome Refusal α} (none : ∀ a, o ≠ .ok a)
    (loud : ¬e.clean) : Attempted sha256 order document e s o s where
  left := .of_within (Within.refl s)
  passed ok := by
    obtain ⟨a, ok⟩ := ok
    exact absurd ok (none a)
  clean calm := absurd calm loud
  stays _ _ := rfl
  reached calm := absurd calm loud

theorem executeDeletion_attempted (present : s.document = some document)
    (revision : document.state.config.revision = order.expectedRevision) :
    Program.Ensures (executeDeletion sha256 order document.state) e
      (Attempted sha256 order document e s) s := by
  have within : Within order document.state s (deletions order document.state e s).2 :=
    deletions_within e s
  have tried : Program.Ensures (deletions order document.state) e
      (fun o s' => (o = .ok () → owned order document.state s ∧ clears document.state s.entries ∧
          s' = { s with runtime := none, entries := cleared document.state s.entries }) ∧
        (e.clean → owned order document.state s → clears document.state s.entries → o = .ok ())) s :=
    deletions_tried
  rw [executeDeletion_eq, Program.ensures_bind]
  unfold Program.Ensures at tried ⊢
  rcases run : deletions order document.state e s with ⟨o, mid⟩
  rw [run] at within tried
  obtain ⟨passed, clean⟩ := tried
  cases o with
  | error refusal =>
    exact ⟨.of_within within, fun ok => (by obtain ⟨_, ok⟩ := ok; cases ok),
      fun calm own clear => (by cases clean calm own clear),
      fun same _ => (by rw [run] at same; exact same), fun _ => (by rw [run]; exact ⟨rfl, rfl⟩)⟩
  | crashed =>
    exact ⟨.of_within within, fun ok => (by obtain ⟨_, ok⟩ := ok; cases ok),
      fun calm own clear => (by cases clean calm own clear),
      fun same _ => (by rw [run] at same; exact same), fun _ => (by rw [run]; exact ⟨rfl, rfl⟩)⟩
  | ok u =>
    obtain ⟨own, clear, same⟩ := passed rfl
    have same : mid =
        { s with runtime := none, entries := cleared document.state s.entries } := same
    rw [Program.after_ok]
    apply (removeDeployment_tried (within.document.trans present) revision).mono
    intro o' after h
    obtain ⟨shape, gone, completes⟩ := h
    have files : after.entries = mid.entries ∧ after.runtime = mid.runtime := by
      rcases shape with rfl | rfl | rfl
      · exact ⟨rfl, rfl⟩
      · exact ⟨rfl, rfl⟩
      · exact ⟨rfl, rfl⟩
    constructor
    · constructor
      · have host : { after with document := s.document, completion := s.completion } = mid := by
          rw [← within.document, ← within.completion, files.1, files.2]
        rw [host]
        exact within
      · rcases shape with rfl | rfl | rfl
        · exact .inl ⟨within.document, within.completion⟩
        · exact .inr ⟨rfl, .inl within.document⟩
        · exact .inr ⟨rfl, .inr rfl⟩
    · intro ok
      obtain ⟨_, ok⟩ := ok
      refine ⟨own, clear, ?_, ?_, gone ok⟩
      · rw [files.1, same]
      · rw [files.2, same]
    · intro calm _ _
      exact ⟨(), completes calm⟩
    · intro _ stopped
      rw [run] at stopped
      exact absurd rfl stopped
    · intro _
      rw [run]
      exact files

theorem answerUninstall_attempted (present : s.document = some document)
    (revision : document.state.config.revision = order.expectedRevision) :
    Program.Ensures (answerUninstall sha256 order) e (Attempted sha256 order document e s) s := by
  unfold answerUninstall loadExisting
  rw [Program.ensures_bind, ensures_deleting]
  refine ⟨fun _ => ?_, fun _ faulted => ?_, fun faulted => ?_⟩
  · rw [Program.ensures_bind, Program.ensures_get, Program.after_ok, present, Program.ensures_pure,
      Program.after_ok, Program.ensures_bind, Program.ensures_require]
    refine ⟨fun _ => ?_, fun other => absurd revision other⟩
    rw [Program.after_ok, Program.ensures_bind]
    apply (executeDeletion_attempted present revision).mono
    intro o after attempted
    cases o with
    | ok u => exact attempted.result ⟨fun _ => ⟨_, rfl⟩, fun _ => ⟨_, rfl⟩⟩
    | error refusal =>
      apply attempted.result
      constructor
      · exact fun ok => (by obtain ⟨_, ok⟩ := ok; cases ok)
      · exact fun ok => (by obtain ⟨_, ok⟩ := ok; cases ok)
    | crashed =>
      apply attempted.result
      constructor
      · exact fun ok => (by obtain ⟨_, ok⟩ := ok; cases ok)
      · exact fun ok => (by obtain ⟨_, ok⟩ := ok; cases ok)
  · exact attempted_stopped (fun _ ok => by cases ok) (faulted_loud faulted (by simp))
  · exact attempted_stopped (fun _ ok => by cases ok) (faulted_loud faulted (by simp))

theorem uninstall_attempted (present : s.document = some document)
    (revision : document.state.config.revision = order.expectedRevision)
    (unrecorded : ¬OwnRecord order s) :
    Program.Ensures (uninstall sha256 order) e (Attempted sha256 order document e s) s := by
  have lost : ∀ {label : DeletionEffect}, e.faults label = .crash →
      Attempted sha256 order document e s (.crashed : Outcome Refusal CompletionBody) s :=
    fun faulted => attempted_stopped (fun _ ok => by cases ok) (faulted_loud faulted (by simp))
  have failed : ∀ {label : DeletionEffect} {d : String} {refusal : Refusal},
      e.faults label = .fail d →
      Attempted sha256 order document e s (.error refusal : Outcome Refusal CompletionBody) s :=
    fun faulted => attempted_stopped (fun _ ok => by cases ok) (faulted_loud faulted (by simp))
  have goes_on : Program.Ensures (answerUninstall sha256 order) e
      (Attempted sha256 order document e s) s := answerUninstall_attempted present revision
  simp only [uninstall, convergeUninstallCompletion, Program.ensures_bind, ensures_deleting,
    Program.ensures_pure, Program.ensures_get, Program.after_ok, Program.after_error,
    Program.after_crashed]
  refine ⟨fun _ => ⟨fun _ => ?_, fun _ faulted => failed faulted, fun faulted => lost faulted⟩,
    fun _ faulted => failed faulted, fun faulted => lost faulted⟩
  rcases held : s.completion with _ | completion
  · exact goes_on
  · have other : ¬completionMatches completion order := fun same =>
      unrecorded ⟨completion, held, same⟩
    simp only [if_neg other]
    exact goes_on

/-- An attempt that the completion record answers. -/
structure Answered (e : Deletion) (before : Host) {α : Type} (o : Outcome Refusal α)
    (after : Host) : Prop where
  kept : after = before ∨ after = { before with document := none }
  gone : (∃ a, o = .ok a) → after.document = none
  clean : e.clean → ∃ a, o = .ok a

/-- A record of its own answers, with the document that it is about gone or still there. -/
theorem uninstall_answered (own : OwnRecord order s)
    (about : ∀ completion ∈ s.completion, s.document = none ∨
      s.document = some document ∧ completion.stateSha256 = sha256 document) :
    Program.Ensures (uninstall sha256 order) e (Answered e s) s := by
  obtain ⟨completion, held, matching⟩ := own
  have held : s.completion = some completion := held
  have failed : ∀ {label : DeletionEffect} {d : String} {refusal : Refusal},
      e.faults label = .fail d →
      Answered e s (.error refusal : Outcome Refusal CompletionBody) s := by
    intro label d refusal faulted
    exact ⟨.inl rfl, fun ok => (by obtain ⟨_, ok⟩ := ok; cases ok),
      fun calm => absurd calm (faulted_loud faulted (by simp))⟩
  have lost : ∀ {label : DeletionEffect}, e.faults label = .crash →
      Answered e s (.crashed : Outcome Refusal CompletionBody) s := by
    intro label faulted
    exact ⟨.inl rfl, fun ok => (by obtain ⟨_, ok⟩ := ok; cases ok),
      fun calm => absurd calm (faulted_loud faulted (by simp))⟩
  simp only [uninstall, convergeUninstallCompletion, Program.ensures_bind, ensures_deleting,
    Program.ensures_pure, Program.ensures_get, Program.after_ok, Program.after_error,
    Program.after_crashed, held, if_pos matching]
  refine ⟨fun _ => ⟨fun _ => ⟨fun _ => ?_, fun _ faulted => failed faulted,
    fun faulted => lost faulted⟩, fun _ faulted => failed faulted, fun faulted => lost faulted⟩,
    fun _ faulted => failed faulted, fun faulted => lost faulted⟩
  rcases about completion held with gone | ⟨there, same⟩
  · rw [gone]
    exact ⟨.inl rfl, fun _ => gone, fun _ => ⟨_, rfl⟩⟩
  · rw [there]
    simp only [Program.ensures_bind, Program.ensures_onlyIf, ensures_deleting,
      Program.ensures_modify, Program.after_ok, Program.after_error, Program.after_crashed]
    refine ⟨fun _ => ⟨fun _ => ?_, fun _ faulted => failed faulted, fun faulted => lost faulted⟩,
      fun other => absurd same.symm other⟩
    exact ⟨.inr rfl, fun _ => rfl, fun _ => ⟨_, rfl⟩⟩

end attempt

/-! ## An attempt that cannot end -/

/-- Deleting the resource takes something away. -/
def touches (entries : Entries) (resource : Resource) : Prop :=
  safeManagedPath resource.locator ∧
    (resource.kind = "directory" ∧ entries resource.locator = some .directory ∧
        chained entries resource.locator ∨
      resource.kind = "file" ∧
        (entries resource.locator = some .file ∧ chained entries resource.locator ∨
          entries resource.locator = none ∧
            chained entries (ownershipMarker resource.locator) ∧
            entries (ownershipMarker resource.locator) ≠ none ∧
            entries (ownershipMarker resource.locator) ≠ some .directory))

/-- Something is taken away before the first resource that cannot be deleted. -/
def moves : Entries → List Resource → Prop
  | _, [] => False
  | entries, resource :: rest => touches entries resource ∨
      removable entries resource ∧ moves entries rest

/-- An uninstall of the state takes something away from the host. -/
def begins (order : UninstallOrder) (state : DeploymentState) (host : Host) : Prop :=
  (host.runtime ≠ none ∧ owned order state host) ∨
    host.runtime = none ∧ moves host.entries (chosen state)

/-- The declared resources that no uninstall deletes, whatever there is on the host. -/
def undeletable (state : DeploymentState) : Prop :=
  ∃ resource ∈ chosen state,
    ¬((resource.kind = "directory" ∨ resource.kind = "file") ∧ safeManagedPath resource.locator)

section blocked

variable {order : UninstallOrder} {state : DeploymentState} {e : Deletion} {s : Host}

theorem removable_known {entries : Entries} {resource : Resource}
    (can : removable entries resource) :
    (resource.kind = "directory" ∨ resource.kind = "file") ∧
      safeManagedPath resource.locator := by
  obtain ⟨safe, ⟨directory, _⟩ | ⟨file, _⟩⟩ := can
  · exact ⟨.inl directory, safe⟩
  · exact ⟨.inr file, safe⟩

theorem settles_known (resources : List Resource) {entries : Entries}
    (can : settles entries resources) : ∀ resource ∈ resources,
      (resource.kind = "directory" ∨ resource.kind = "file") ∧
        safeManagedPath resource.locator := by
  induction resources generalizing entries with
  | nil => simp
  | cons resource rest ih =>
    intro other inside
    rcases List.mem_cons.mp inside with rfl | inside
    · exact removable_known can.1
    · exact ih can.2 other inside

theorem removeFileDurable_idle {path : Path} (idle : chained s.entries path →
      s.entries path = none ∨ s.entries path = some .directory) :
    Program.Ensures (removeFileDurable path) e (fun _ s' => s' = s) s := by
  unfold removeFileDurable
  rw [Program.ensures_bind, ensures_deleting]
  refine ⟨fun _ => ?_, fun _ _ => rfl, fun _ => rfl⟩
  rw [Program.ensures_pure, Program.after_ok, Program.ensures_bind, Program.ensures_get,
    Program.after_ok, Program.ensures_bind, Program.ensures_require]
  refine ⟨fun chain => ?_, fun _ => rfl⟩
  rw [Program.after_ok, Program.ensures_bind, ensures_deleting]
  refine ⟨fun _ => ?_, fun _ _ => rfl, fun _ => rfl⟩
  unfold Program.Ensures
  rcases idle chain with absent | there
  · rw [unlinked_absent absent]
    rfl
  · rw [unlinked_directory there]
    rfl

theorem deleteManagedResource_idle {resource : Resource} (idle : ¬touches s.entries resource) :
    Program.Ensures (deleteManagedResource resource.kind resource.locator) e
      (fun _ s' => s' = s) s := by
  unfold deleteManagedResource
  by_cases directory : resource.kind = "directory"
  · rw [if_pos directory, Program.ensures_bind, Program.ensures_require]
    refine ⟨fun safe => ?_, fun _ => rfl⟩
    rw [Program.after_ok, Program.ensures_bind, ensures_deleting]
    refine ⟨fun _ => ?_, fun _ _ => rfl, fun _ => rfl⟩
    show Program.After _ e _ (.ok (s.entries resource.locator)) s
    rw [Program.after_ok]
    rcases found : s.entries resource.locator with _ | _ | _ | _
    · rfl
    · have broken : ¬chained s.entries resource.locator := fun chain =>
        idle ⟨safe, .inl ⟨directory, found, chain⟩⟩
      simp only [makeTreeRemovable, Program.ensures_bind, Program.ensures_get, Program.after_ok,
        Program.ensures_require]
      exact ⟨fun chain => absurd chain broken, fun _ => rfl⟩
    · rfl
    · rfl
  · rw [if_neg directory]
    by_cases file : resource.kind = "file"
    · rw [if_pos file, Program.ensures_bind, Program.ensures_require]
      refine ⟨fun safe => ?_, fun _ => rfl⟩
      rw [Program.after_ok, Program.ensures_bind, ensures_deleting]
      refine ⟨fun _ => ?_, fun _ _ => rfl, fun _ => rfl⟩
      show Program.After _ e _ (.ok (s.entries resource.locator)) s
      rw [Program.after_ok]
      rcases found : s.entries resource.locator with _ | _ | _ | _
      · apply removeFileDurable_idle
        intro chain
        by_contra other
        rw [not_or] at other
        exact idle ⟨safe, .inr ⟨file, .inr ⟨found, chain, other.1, other.2⟩⟩⟩
      · rfl
      · have broken : ¬chained s.entries resource.locator := fun chain =>
          idle ⟨safe, .inr ⟨file, .inl ⟨found, chain⟩⟩⟩
        have kept : Program.Ensures (removeFileDurable resource.locator) e (fun _ s' => s' = s) s :=
          removeFileDurable_idle fun chain => absurd chain broken
        have tried := removeFileDurable_exact resource.locator e s
        simp only [Program.ensures_bind]
        apply (kept.and tried).mono
        intro o s' h
        obtain ⟨same, tried⟩ := h
        cases o with
        | ok u => exact absurd (tried.passed rfl).1.1 broken
        | error refusal => exact same
        | crashed => exact same
      · rfl
    · rw [if_neg file]
      rfl

theorem deleteResources_idle (resources : List Resource) (idle : ¬moves s.entries resources) :
    Program.Ensures (deleteResources resources) e (fun _ s' => s' = s) s := by
  induction resources with
  | nil => rfl
  | cons resource rest ih =>
    have still : ¬touches s.entries resource := fun first => idle (.inl first)
    unfold deleteResources
    rw [Program.ensures_bind]
    apply ((deleteManagedResource_idle still).and (deleteManagedResource_exact resource e s)).mono
    intro o s' h
    obtain ⟨same, tried⟩ := h
    cases o with
    | ok u =>
      have can := (tried.passed rfl).1
      rw [Program.after_ok, same]
      exact ih fun later => idle (.inr ⟨can, later⟩)
    | error refusal => exact same
    | crashed => exact same

/-- A state with a resource that cannot be deleted stays as it is, if nothing comes before it. -/
theorem deletions_blocked (blocked : undeletable state) (idle : ¬begins order state s) :
    Program.Ensures (deletions order state) e (fun o s' => s' = s ∧ o ≠ .ok ()) s := by
  have never : ∀ entries, ¬clears state entries := by
    intro entries clear
    obtain ⟨resource, inside, bad⟩ := blocked
    exact bad (settles_known _ clear.1 resource inside)
  have unpassed : Program.Ensures (deletions order state) e (fun o _ => o ≠ .ok ()) s :=
    deletions_tried.mono fun o s' h ok => never _ (h.1 ok).2.1
  refine Program.Ensures.and ?_ unpassed
  unfold deletions
  rw [Program.ensures_bind, ensures_deleting]
  refine ⟨fun _ => ?_, fun _ _ => rfl, fun _ => rfl⟩
  rw [Program.ensures_pure, Program.after_ok, Program.ensures_bind]
  rcases found : s.runtime with _ | object
  · have still : ¬moves s.entries (chosen state) := fun later => idle (.inr ⟨found, later⟩)
    simp only [deleteRuntime, Program.ensures_bind, ensures_deleting, Program.ensures_pure,
      Program.ensures_get, Program.after_ok, Program.after_error, Program.after_crashed, found]
    refine ⟨fun _ => ?_, fun _ _ => trivial, fun _ => trivial⟩
    apply ((deleteResources_idle (chosen state) still).and
      (deleteResources_exact (chosen state) e s)).mono
    intro o s' h
    obtain ⟨same, tried⟩ := h
    cases o with
    | ok u =>
      obtain ⟨resource, inside, bad⟩ := blocked
      exact absurd (settles_known _ (tried.passed rfl).1 resource inside) bad
    | error refusal => exact same
    | crashed => exact same
  · have foreign : ¬owned order state s := fun own => idle (.inl ⟨by simp [found], own⟩)
    simp only [deleteRuntime, Program.ensures_bind, ensures_deleting, Program.ensures_pure,
      Program.ensures_get, Program.after_ok, Program.after_error, Program.after_crashed, found,
      Program.ensures_require]
    refine ⟨fun _ => ⟨fun label => ?_, fun _ => trivial⟩, fun _ _ => trivial, fun _ => trivial⟩
    apply absurd _ foreign
    intro other there
    rw [found] at there
    cases there
    exact label

end blocked

/-- An entry that was there is gone. -/
def Lost (before after : Host) : Prop :=
  ∃ path, before.entries path ≠ none ∧ after.entries path = none

section begun

variable {order : UninstallOrder} {state : DeploymentState} {e : Deletion} {s : Host}

theorem Lost.within {a b c : Host} (lost : Lost a b) (h : Within order state b c) : Lost a c := by
  obtain ⟨path, there, gone⟩ := lost
  exact ⟨path, there, h.entries.gone gone⟩

variable (order state) in
/-- What a first step has taken away stays away in those that follow. -/
theorem lost_bind {α β : Type} {p : Deleting α} {q : α → Deleting β}
    (first : Program.Ensures p e (fun _ s' => Lost s s') s)
    (rest : ∀ a, Program.Keeps (q a) (Within order state)) :
    Program.Ensures (p >>= q) e (fun _ s' => Lost s s') s := by
  rw [Program.ensures_bind]
  apply first.mono
  intro o s' lost
  cases o with
  | ok a => exact lost.within (rest a e s')
  | error refusal => exact lost
  | crashed => exact lost

theorem removeFileDurable_lost {path : Path} (calm : e.clean) (free : Free s.entries path)
    (there : s.entries path ≠ none) :
    Program.Ensures (removeFileDurable path) e (fun _ s' => Lost s s') s := by
  apply (removeFileDurable_exact path e s).mono
  intro o s' tried
  obtain ⟨_, same⟩ := tried.passed (tried.clean calm free)
  rw [same]
  exact ⟨path, there, if_pos rfl⟩

theorem deleteManagedResource_lost (order : UninstallOrder) (state : DeploymentState)
    {resource : Resource} (calm : e.clean)
    (member : resource ∈ state.resources) (picked : deletable resource = true)
    (touched : touches s.entries resource) :
    Program.Ensures (deleteManagedResource resource.kind resource.locator) e
      (fun _ s' => Lost s s') s := by
  obtain ⟨safe, ⟨directory, there, chain⟩ | ⟨file, entry⟩⟩ := touched
  · have can : removable s.entries resource := ⟨safe, .inl ⟨directory, .inr ⟨there, chain⟩⟩⟩
    apply (deleteManagedResource_exact resource e s).mono
    intro o s' tried
    obtain ⟨_, same⟩ := tried.passed (tried.clean calm can)
    rw [same]
    refine ⟨resource.locator, by simp [there], ?_⟩
    unfold without
    rw [if_pos directory, if_neg (by simp [there])]
    exact if_pos (List.prefix_refl _)
  · unfold deleteManagedResource
    rw [if_neg (by rw [file]; decide), if_pos file, Program.ensures_bind, Program.ensures_require]
    refine ⟨fun _ => ?_, fun refused => absurd safe refused⟩
    rw [Program.after_ok, Program.ensures_bind, ensures_deleting]
    refine ⟨fun _ => ?_, fun _ faulted => ?_, fun faulted => ?_⟩
    · show Program.After _ e _ (.ok (s.entries resource.locator)) s
      rw [Program.after_ok]
      rcases entry with ⟨there, chain⟩ | ⟨absent, chain, there, plain⟩
      · rw [there]
        have marker := fun entries => (file_covered member picked file entries).2
        apply lost_bind order state
        · exact removeFileDurable_lost calm ⟨chain, by simp [there]⟩ (by simp [there])
        · exact fun _ => removeFileDurable_within marker
      · rw [absent]
        exact removeFileDurable_lost calm ⟨chain, plain⟩ there
    · exact absurd calm (faulted_loud faulted (by simp))
    · exact absurd calm (faulted_loud faulted (by simp))

theorem deleteResources_lost (order : UninstallOrder) (state : DeploymentState)
    (calm : e.clean) (resources : List Resource)
    (known : ∀ resource ∈ resources, resource ∈ state.resources ∧ deletable resource = true)
    (moved : moves s.entries resources) :
    Program.Ensures (deleteResources resources) e (fun _ s' => Lost s s') s := by
  induction resources with
  | nil => cases moved
  | cons resource rest ih =>
    obtain ⟨member, picked⟩ := known resource List.mem_cons_self
    have others : ∀ other ∈ rest, other ∈ state.resources ∧ deletable other = true :=
      fun other inside => known other (List.mem_cons_of_mem _ inside)
    unfold deleteResources
    by_cases first : touches s.entries resource
    · apply lost_bind order state
      · exact deleteManagedResource_lost order state calm member picked first
      · exact fun _ => deleteResources_within rest others
    · obtain ⟨can, later⟩ := moved.resolve_left first
      rw [Program.ensures_bind]
      apply ((deleteManagedResource_idle first).and (deleteManagedResource_exact resource e s)).mono
      intro o s' h
      obtain ⟨same, tried⟩ := h
      have passed := tried.clean calm can
      subst passed
      rw [Program.after_ok, same]
      exact ih others later

/-- Where an uninstall begins, a pass without faults takes something away. -/
theorem deletions_begins (calm : e.clean) (begun : begins order state s) :
    Program.Ensures (deletions order state) e
      (fun _ s' => s.runtime ≠ none ∧ s'.runtime = none ∨ Lost s s') s := by
  have rest : Program.Keeps (deleteResources (chosen state) >>= fun _ =>
      removeFileDurable state.config.reference >>= fun _ =>
      removeFileDurable (ownershipMarker state.config.reference)) (Within order state) := by
    apply within_bind
    · apply deleteResources_within
      intro resource inside
      simpa [chosen] using inside
    · intro _
      apply within_bind (removeFileDurable_within reference_covered)
      intro _
      exact removeFileDurable_within marker_covered
  unfold deletions
  rw [Program.ensures_bind, ensures_deleting]
  refine ⟨fun _ => ?_, fun _ faulted => absurd calm (faulted_loud faulted (by simp)),
    fun faulted => absurd calm (faulted_loud faulted (by simp))⟩
  rw [Program.ensures_pure, Program.after_ok, Program.ensures_bind]
  apply deleteRuntime_tried.mono
  intro o s' h
  obtain ⟨passed, clean⟩ := h
  rcases begun with ⟨there, own⟩ | ⟨absent, moved⟩
  · have ok := clean calm own
    subst ok
    obtain ⟨_, same⟩ := passed rfl
    rw [Program.after_ok]
    have kept : Within order state s' _ := rest e s'
    exact .inl ⟨there, kept.absent (by rw [same])⟩
  · have own : owned order state s := by
      intro object there
      rw [absent] at there
      cases there
    have ok := clean calm own
    subst ok
    obtain ⟨_, same⟩ := passed rfl
    have unchanged : s' = s := by
      rw [same, ← absent]
    rw [Program.after_ok, unchanged]
    apply Program.Ensures.mono _ fun _ _ lost => .inr lost
    apply lost_bind order state
    · apply deleteResources_lost order state calm _ _ moved
      intro resource inside
      simpa [chosen] using inside
    · intro _
      apply within_bind (removeFileDurable_within reference_covered)
      intro _
      exact removeFileDurable_within marker_covered

end begun

/-! ## What a whole pass takes -/

section taken

variable {state : DeploymentState} {a : Entries} {resource : Resource} {path : Path}

/-- The path is one that deleting the resource takes, if it is there. -/
def taking (entries : Entries) (resource : Resource) (path : Path) : Prop :=
  resource.kind = "directory" ∧ entries resource.locator = some .directory ∧
      resource.locator <+: path ∨
    resource.kind = "file" ∧ (path = resource.locator ∨ path = ownershipMarker resource.locator)

theorem shrunk_without (can : removable a resource) : Shrunk a (without a resource) := by
  obtain ⟨_, ⟨directory, _⟩ | ⟨file, entry, marker⟩⟩ := can
  · unfold without
    rw [if_pos directory]
    by_cases absent : a resource.locator = none
    · rw [if_pos absent]
      exact .refl a
    · rw [if_neg absent]
      exact shrunk_dropTree a _
  · unfold without
    rw [if_neg (by rw [file]; decide)]
    have plain : a resource.locator ≠ some .directory := by
      intro there
      rcases entry with absent | ⟨entry, _⟩
      · rw [there] at absent
        cases absent
      · rw [there] at entry
        cases entry
    exact (shrunk_dropEntry a _ plain).trans (shrunk_dropEntry _ _ marker.2)

theorem without_gone (taken : taking a resource path) :
    without a resource path = none := by
  unfold without
  rcases taken with ⟨directory, there, under⟩ | ⟨file, same⟩
  · rw [if_pos directory, if_neg (by simp [there])]
    exact if_pos under
  · rw [if_neg (by rw [file]; decide)]
    unfold dropEntry
    by_cases marker : path = ownershipMarker resource.locator
    · rw [if_pos marker]
    · rw [if_neg marker, if_pos (same.resolve_right marker)]

theorem shrunk_remaining (resources : List Resource) (can : settles a resources) :
    Shrunk a (remaining a resources) := by
  induction resources generalizing a with
  | nil => exact .refl a
  | cons resource rest ih => exact (shrunk_without can.1).trans (ih can.2)

theorem remaining_gone (resources : List Resource) (can : settles a resources)
    (member : resource ∈ resources) (taken : taking a resource path) :
    remaining a resources path = none := by
  induction resources generalizing a with
  | nil => cases member
  | cons first rest ih =>
    have later := shrunk_remaining rest can.2
    rcases List.mem_cons.mp member with rfl | inside
    · exact later.gone (without_gone taken)
    · have shrunk := shrunk_without can.1
      rcases taken with ⟨directory, there, under⟩ | file
      · by_cases gone : without a first resource.locator = none
        · exact later.gone (shrunk.whole _ there gone path under)
        · apply ih can.2 inside
          exact .inl ⟨directory, (shrunk.kept gone).trans there, under⟩
      · exact ih can.2 inside (.inr file)

theorem cleared_gone (can : clears state a) (covered : covers state a path) :
    cleared state a path = none := by
  obtain ⟨settled, reference, marker⟩ := can
  have first := shrunk_dropEntry (remaining a (chosen state)) _ reference.2
  have second := shrunk_dropEntry (dropEntry (remaining a (chosen state))
    state.config.reference) _ marker.2
  rcases covered with ⟨resource, member, picked, taken⟩ | same | same
  · have inside : resource ∈ chosen state := List.mem_filter.mpr ⟨member, picked⟩
    exact second.gone (first.gone (remaining_gone _ settled inside taken))
  · apply second.gone
    rw [same]
    exact if_pos rfl
  · rw [same]
    exact if_pos rfl

end taken

/-! ## Attempts under the journal -/

/-- The order is accepted for the first time, at the revision of the document. -/
structure Start (journal : TargetJournal CompletionBody) (order : UninstallOrder)
    (scope : Scope CompletionBody Host) (document : Document) : Prop where
  present : scope.world.document = some document
  revision : document.state.config.revision = order.expectedRevision
  unrecorded : ¬OwnRecord order scope.world
  unknown : ∀ line ∈ scope.lines, line.operationId ≠ order.operationId
  reachable : Reachable journal (JournalSpace.Fitting (ρ := Deletion) journal) scope

section stages

variable {sha256 : Document → Digest} {order : UninstallOrder} {document : Document}
  {start world : Host} {e : Deletion}

/-- What attempts of the order make of the host they found. -/
structure Stage (sha256 : Document → Digest) (order : UninstallOrder) (document : Document)
    (start world : Host) : Prop where
  within : Within order document.state start
    { world with document := start.document, completion := start.completion }
  records : world.document = some document ∧ world.completion = start.completion ∨
    world.completion = some (ownCompletion sha256 order document) ∧
      (world.document = some document ∨ world.document = none)

theorem Stage.first (present : start.document = some document) :
    Stage sha256 order document start start where
  within := .refl start
  records := .inl ⟨present, rfl⟩

/-- A record written by the order is its own. -/
theorem ownCompletion_matches (revision : document.state.config.revision = order.expectedRevision) :
    completionMatches (ownCompletion sha256 order document) order :=
  ⟨rfl, rfl, revision⟩

theorem executeUninstall_completed {body : HostCompletionBody CompletionBody}
    (completed : (executeUninstall sha256 order e world).1 = some (.completed body)) :
    ∃ a, (uninstall sha256 order e world).1 = .ok a := by
  unfold executeUninstall at completed
  rcases run : uninstall sha256 order e world with ⟨a | refusal | _, after⟩
  · exact ⟨a, rfl⟩
  · rw [run] at completed
    cases completed
  · rw [run] at completed
    cases completed

theorem executeUninstall_passed {a : CompletionBody}
    (passed : (uninstall sha256 order e world).1 = .ok a) :
    (executeUninstall sha256 order e world).1 = some (.completed (.other a)) := by
  unfold executeUninstall
  rcases run : uninstall sha256 order e world with ⟨a' | refusal | _, after⟩
  · rw [run] at passed
    cases passed
    rfl
  · rw [run] at passed
    cases passed
  · rw [run] at passed
    cases passed

theorem executeUninstall_world :
    (executeUninstall sha256 order e world).2 = (uninstall sha256 order e world).2 := by
  unfold executeUninstall
  rcases uninstall sha256 order e world with ⟨a | refusal | _, after⟩
  · rfl
  · rfl
  · rfl

/-- One attempt more. -/
structure Step (sha256 : Document → Digest) (order : UninstallOrder) (document : Document)
    (start : Host) (e : Deletion) (o : Outcome Refusal CompletionBody) (after : Host) : Prop where
  stage : Stage sha256 order document start after
  gone : (∃ a, o = .ok a) → after.document = none
  clean : e.clean → owned order document.state start → clears document.state start.entries →
    ∃ a, o = .ok a

theorem Stage.step (stage : Stage sha256 order document start world)
    (revision : document.state.config.revision = order.expectedRevision)
    (unrecorded : ¬OwnRecord order start) :
    Program.Ensures (uninstall sha256 order) e (Step sha256 order document start e) world := by
  rcases stage.records with ⟨present, completion⟩ | ⟨completion, document_left⟩
  · have foreign : ¬OwnRecord order world := by
      unfold OwnRecord at unrecorded ⊢
      rwa [completion]
    apply (uninstall_attempted present revision foreign).mono
    intro o after attempted
    have within : Within order document.state start
        { after with document := start.document, completion := start.completion } := by
      have later := attempted.left.within
      apply stage.within.trans
      exact ⟨later.entries, later.covered, later.labelled, later.absent, rfl, rfl⟩
    refine ⟨⟨within, ?_⟩, fun ok => (attempted.passed ok).2.2.2.2, ?_⟩
    · rcases attempted.left.records with ⟨same, kept⟩ | ⟨written, same | none⟩
      · exact .inl ⟨same.trans present, kept.trans completion⟩
      · exact .inr ⟨written, .inl (same.trans present)⟩
      · exact .inr ⟨written, .inr none⟩
    · intro calm own clear
      apply attempted.clean calm
      · have kept : owned order document.state
            { world with document := start.document, completion := start.completion } :=
          owned_within stage.within own
        exact kept
      · exact clears_shrunk stage.within.entries clear
  · have own : OwnRecord order world :=
      ⟨_, completion, ownCompletion_matches revision⟩
    have about : ∀ held ∈ world.completion, world.document = none ∨
        world.document = some document ∧ held.stateSha256 = sha256 document := by
      intro held member
      have held : world.completion = some held := member
      rw [completion] at held
      cases held
      exact document_left.symm.imp_right fun there => ⟨there, rfl⟩
    apply (uninstall_answered own about).mono
    intro o after answered
    refine ⟨?_, answered.gone, fun calm _ _ => answered.clean calm⟩
    rcases answered.kept with same | same
    · rw [same]
      exact stage
    · rw [same]
      exact ⟨stage.within, .inr ⟨completion, .inr rfl⟩⟩

theorem Stage.executed (stage : Stage sha256 order document start world)
    (revision : document.state.config.revision = order.expectedRevision)
    (unrecorded : ¬OwnRecord order start) :
    Stage sha256 order document start (executeUninstall sha256 order e world).2 ∧
      (∀ body, (executeUninstall sha256 order e world).1 = some (.completed body) →
        (executeUninstall sha256 order e world).2.document = none) ∧
      (e.clean → owned order document.state start → clears document.state start.entries →
        ∃ body, (executeUninstall sha256 order e world).1 = some (.completed body)) := by
  have step : Step sha256 order document start e (uninstall sha256 order e world).1
      (uninstall sha256 order e world).2 := stage.step revision unrecorded
  rw [executeUninstall_world]
  refine ⟨step.stage, ?_, ?_⟩
  · intro body completed
    exact step.gone (executeUninstall_completed completed)
  · intro calm own clear
    obtain ⟨a, passed⟩ := step.clean calm own clear
    exact ⟨_, executeUninstall_passed passed⟩

end stages

section journaled

variable {journal : TargetJournal CompletionBody} {sha256 : Document → Digest}
  {order : UninstallOrder} {document : Document} {start : Host}
  {scope : Scope CompletionBody Host}

/-- The journal knows the order by its hash, and no answer of it that came before its end. -/
structure Known (order : UninstallOrder) (scope : Scope CompletionBody Host)
    (line : JournalLine CompletionBody) : Prop where
  agrees : line.operationId = order.operationId → line.operationHash = order.canonicalHash
  final : line.operationId = order.operationId → line.status = .completed →
    scope.world.document = none ∧ ∃ body, line.result = some (.completed body)

structure Underway (sha256 : Document → Digest) (order : UninstallOrder) (document : Document)
    (start : Host) (scope : Scope CompletionBody Host) : Prop where
  stage : Stage sha256 order document start scope.world
  known : ∀ line ∈ scope.lines, Known order scope line

theorem call_stage (stage : Stage sha256 order document start scope.world)
    (revision : document.state.config.revision = order.expectedRevision)
    (unrecorded : ¬OwnRecord order start) (attempt : JournaledCalls.Attempt Deletion) :
    Stage sha256 order document start ((order.call sha256 attempt).run journal scope).2.world := by
  have world := call_world journal (order.call sha256 attempt) scope
  rcases world with same | executed
  · rw [same]
    exact stage
  · rw [executed]
    exact (stage.executed revision unrecorded).1

/-- A document that is gone stays gone. -/
theorem call_gone (stage : Stage sha256 order document start scope.world)
    (revision : document.state.config.revision = order.expectedRevision)
    (gone : scope.world.document = none) (attempt : JournaledCalls.Attempt Deletion) :
    ((order.call sha256 attempt).run journal scope).2.world.document = none := by
  have recorded : Recorded sha256 order scope.world := by
    rcases stage.records with ⟨there, _⟩ | ⟨completion, _⟩
    · rw [gone] at there
      cases there
    · refine ⟨_, completion, ownCompletion_matches revision, ?_⟩
      intro other there
      have there : scope.world.document = some other := there
      rw [gone] at there
      cases there
  have world := call_world journal (order.call sha256 attempt) scope
  rcases world with same | executed
  · rw [same]
    exact gone
  · rw [executed]
    have kept : (executeUninstall sha256 order attempt.execution scope.world).2 = scope.world :=
      (executeUninstall_recorded recorded).1
    exact (congrArg Host.document kept).trans gone

theorem Underway.call (underway : Underway sha256 order document start scope)
    (revision : document.state.config.revision = order.expectedRevision)
    (unrecorded : ¬OwnRecord order start) (attempt : JournaledCalls.Attempt Deletion) :
    Underway sha256 order document start ((order.call sha256 attempt).run journal scope).2 where
  stage := call_stage underway.stage revision unrecorded attempt
  known := by
    intro line member
    rcases call_added (order.call sha256 attempt) scope line member with
      old | rfl | ⟨outcome, executed, _, rfl⟩
    · have before := underway.known line old
      refine ⟨before.agrees, fun own completed => ?_⟩
      obtain ⟨gone, body⟩ := before.final own completed
      exact ⟨call_gone underway.stage revision gone attempt, body⟩
    · refine ⟨fun _ => rfl, fun _ completed => ?_⟩
      cases completed
    · refine ⟨fun _ => rfl, fun _ completed => ?_⟩
      cases outcome with
      | failed code detail => cases completed
      | completed body =>
        have run : executeUninstall sha256 order attempt.execution scope.world =
            (some (.completed body), ((order.call sha256 attempt).run journal scope).2.world) :=
          executed
        have gone := (underway.stage.executed (e := attempt.execution) revision unrecorded).2.1
        rw [run] at gone
        exact ⟨gone body rfl, body, rfl⟩

/-- The scope after attempts of the order, each cut off or failing anywhere. -/
def retried (journal : TargetJournal CompletionBody) (sha256 : Document → Digest)
    (order : UninstallOrder) : Scope CompletionBody Host →
    List (JournaledCalls.Attempt Deletion) → Scope CompletionBody Host
  | scope, [] => scope
  | scope, attempt :: rest =>
    retried journal sha256 order ((order.call sha256 attempt).run journal scope).2 rest

theorem Underway.retried (revision : document.state.config.revision = order.expectedRevision)
    (unrecorded : ¬OwnRecord order start) (attempts : List (JournaledCalls.Attempt Deletion))
    (underway : Underway sha256 order document start scope) :
    Underway sha256 order document start
      (UninstallConvergence.retried journal sha256 order scope attempts) := by
  induction attempts generalizing scope with
  | nil => exact underway
  | cons attempt rest ih => exact ih (underway.call revision unrecorded attempt)

theorem retried_readable (roomy : JournalSpace.Roomy journal.bounds)
    (attempts : List (JournaledCalls.Attempt Deletion))
    (fitting : ∀ attempt ∈ attempts, JournalSpace.Fitting journal (order.call sha256 attempt))
    (readable : JournalSpace.Readable journal scope.lines) :
    JournalSpace.Readable journal (retried journal sha256 order scope attempts).lines := by
  induction attempts generalizing scope with
  | nil => exact readable
  | cons attempt rest ih =>
    apply ih fun later inside => fitting later (List.mem_cons_of_mem _ inside)
    have fits := fitting attempt List.mem_cons_self
    exact ((JournalSpace.bounded_kept roomy _ fits).call readable).1

theorem Start.underway (begun : Start journal order scope document) :
    Underway sha256 order document scope.world scope where
  stage := .first begun.present
  known line member :=
    ⟨fun own => absurd own (begun.unknown line member),
      fun own => absurd own (begun.unknown line member)⟩

/-- The journal has an answer to the attempt, or room for it. -/
def Served (journal : TargetJournal CompletionBody) (order : UninstallOrder)
    (attempt : JournaledCalls.Attempt Deletion) (scope : Scope CompletionBody Host) : Prop :=
  storedAnswer order.operation (openedLines journal scope.lines) ≠ none ∨
    admitted journal order.operation attempt.acceptedAt (openedLines journal scope.lines)

/-- A stored answer of the order is a completion. -/
theorem stored_final (known : ∀ line ∈ scope.lines, Known order scope line)
    {outcome : HostOutcome CompletionBody}
    (stored : storedAnswer order.operation (openedLines journal scope.lines) = some outcome) :
    scope.world.document = none ∧ ∃ body, outcome = .completed body := by
  unfold storedAnswer at stored
  rcases found : latest (openedLines journal scope.lines) order.operation.operationId with _ | line
  · rw [found] at stored
    cases stored
  · rw [found] at stored
    obtain ⟨member, own⟩ := latest_mem found
    have inside := (openedLines_sublist scope.lines).subset member
    dsimp only at stored
    by_cases ended : line.status ≠ .pending ∧
        ¬(line.status = .failed ∧ order.operation.body.retriesFailure = true)
    · rw [if_pos ended] at stored
      have completed : line.status = .completed := by
        have retries : order.operation.body.retriesFailure = true := rfl
        rcases status : line.status with _ | _ | _
        · exact absurd status ended.1
        · rfl
        · exact absurd ⟨status, retries⟩ ended.2
      obtain ⟨gone, body, result⟩ := (known line inside).final own completed
      rw [result] at stored
      cases stored
      exact ⟨gone, body, rfl⟩
    · rw [if_neg ended] at stored
      cases stored

/-- An attempt without faults ends the uninstall. -/
theorem Underway.finishes (roomy : JournalSpace.Roomy journal.bounds)
    (underway : Underway sha256 order document start scope)
    (readable : JournalSpace.Readable journal scope.lines)
    (revision : document.state.config.revision = order.expectedRevision)
    (unrecorded : ¬OwnRecord order start) (own : owned order document.state start)
    (clear : clears document.state start.entries) {last : JournaledCalls.Attempt Deletion}
    (fitting : JournalSpace.Fitting journal (order.call sha256 last)) (calm : Unfaulted last)
    (served : Served journal order last scope) :
    (∃ body, ((order.call sha256 last).run journal scope).1 = .ok (.completed body)) ∧
      ((order.call sha256 last).run journal scope).2.world.document = none := by
  obtain ⟨outcome, answer⟩ := call_answers roomy (order.call sha256 last) scope readable
    fitting calm.1 (fun world => uninstall_returns calm.2 world)
  have executed := underway.stage.executed (e := last.execution) revision unrecorded
  have dispatched := call_dispatched journal (order.call sha256 last) scope
  rw [answer] at dispatched ⊢
  generalize ((order.call sha256 last).run journal scope).2.world = world at dispatched ⊢
  generalize answered : Outcome.ok outcome = o at dispatched
  cases dispatched with
  | unanswered none => exact absurd answered.symm (none _)
  | conflict found =>
    obtain ⟨line, inside, other⟩ : ∃ line ∈ openedLines journal scope.lines,
        line.operationId = order.operationId ∧ line.operationHash ≠ order.canonicalHash := by
      have chosen := List.find?_some found
      have member := List.mem_of_find?_eq_some found
      exact ⟨_, member, of_decide_eq_true chosen⟩
    have known := underway.known line ((openedLines_sublist scope.lines).subset inside)
    exact absurd (known.agrees other.1) other.2
  | stored _ stored =>
    cases answered
    obtain ⟨gone, body, rfl⟩ := stored_final underway.known stored
    exact ⟨⟨body, rfl⟩, gone⟩
  | refused _ unanswered full =>
    rcases served with stored | room
    · exact absurd unanswered stored
    · exact absurd room full
  | executed _ _ _ given =>
    obtain ⟨body, completed⟩ := executed.2.2 calm.2 own clear
    have same := (given outcome answered.symm).symm.trans completed
    cases same
    exact ⟨⟨body, answered.symm⟩, executed.2.1 body completed⟩

end journaled

/-! ## The whole property -/

section whole

variable (journal : TargetJournal CompletionBody) (sha256 : Document → Digest)
  (order : UninstallOrder) (scope : Scope CompletionBody Host) (document : Document)

/-- However often the uninstall is cut off or fails, it removes nothing but its own, and it ends
with the document gone as soon as an attempt meets no fault; an uninstall that can never end
removes nothing at all. -/
structure Converges : Prop where
  confined : ∀ attempts path,
    (retried journal sha256 order scope attempts).world.entries path ≠ scope.world.entries path →
      covers document.state scope.world.entries path
  labelled : ∀ attempts object, scope.world.runtime = some object →
    (retried journal sha256 order scope attempts).world.runtime = none →
      object.labels.lookup ownershipLabel = some order.deploymentId
  spares : ∀ attempts, ∀ resource ∈ document.state.resources,
    resource.ownership = .external ∨ resource.scope = .shared →
      (retried journal sha256 order scope attempts).world.entries resource.locator =
        scope.world.entries resource.locator
  refuses : undeletable document.state → ∀ attempts,
    (retried journal sha256 order scope attempts).world = scope.world ∧
      ∀ last body, ((order.call sha256 last).run journal
        (retried journal sha256 order scope attempts)).1 ≠ .ok (.completed body)
  finishes : ¬undeletable document.state → ∀ attempts last,
    (∀ attempt ∈ attempts, JournalSpace.Fitting journal (order.call sha256 attempt)) →
    JournalSpace.Fitting journal (order.call sha256 last) → Unfaulted last →
    Served journal order last (retried journal sha256 order scope attempts) →
      (∃ body, ((order.call sha256 last).run journal
        (retried journal sha256 order scope attempts)).1 = .ok (.completed body)) ∧
      ((order.call sha256 last).run journal
        (retried journal sha256 order scope attempts)).2.world.document = none

/-- A state with a resource that no uninstall deletes has nothing that goes before it. Any other
state can be cleared from the host in its order, its runtime object carries the label, and none
of what it deletes is declared external or shared as well. -/
structure Amenable (host : Host) : Prop where
  blocked : undeletable document.state → ¬begins order document.state host
  clear : ¬undeletable document.state → clears document.state host.entries
  labelled : ¬undeletable document.state → ∀ object, host.runtime = some object →
    object.labels.lookup ownershipLabel = some order.deploymentId
  apart : ¬undeletable document.state → ∀ resource ∈ document.state.resources,
    resource.ownership = .external ∨ resource.scope = .shared →
      host.entries resource.locator = none ∨
        ¬covers document.state host.entries resource.locator

end whole

section equivalence

variable {journal : TargetJournal CompletionBody} {sha256 : Document → Digest}
  {order : UninstallOrder} {scope : Scope CompletionBody Host} {document : Document}

/-- Where the uninstall cannot begin, every attempt leaves the host as it was. -/
theorem blocked_execute (present : scope.world.document = some document)
    (revision : document.state.config.revision = order.expectedRevision)
    (unrecorded : ¬OwnRecord order scope.world) (stuck : undeletable document.state)
    (idle : ¬begins order document.state scope.world) (e : Deletion) :
    (executeUninstall sha256 order e scope.world).2 = scope.world ∧
      ∀ body, (executeUninstall sha256 order e scope.world).1 ≠ some (.completed body) := by
  have attempted : Attempted sha256 order document e scope.world
      (uninstall sha256 order e scope.world).1 (uninstall sha256 order e scope.world).2 :=
    uninstall_attempted present revision unrecorded
  obtain ⟨same, unpassed⟩ : (deletions order document.state e scope.world).2 = scope.world ∧
      (deletions order document.state e scope.world).1 ≠ .ok () := deletions_blocked stuck idle
  constructor
  · rw [executeUninstall_world]
    exact attempted.stays same unpassed
  · intro body completed
    obtain ⟨_, clear, _⟩ := attempted.passed (executeUninstall_completed completed)
    obtain ⟨resource, inside, bad⟩ := stuck
    exact bad (settles_known _ clear.1 resource inside)

theorem blocked_retried (present : scope.world.document = some document)
    (revision : document.state.config.revision = order.expectedRevision)
    (unrecorded : ¬OwnRecord order scope.world) (stuck : undeletable document.state)
    (idle : ¬begins order document.state scope.world)
    (attempts : List (JournaledCalls.Attempt Deletion)) :
    (retried journal sha256 order scope attempts).world = scope.world := by
  induction attempts generalizing scope with
  | nil => rfl
  | cons attempt rest ih =>
    have world := call_world journal (order.call sha256 attempt) scope
    have kept : ((order.call sha256 attempt).run journal scope).2.world = scope.world := by
      rcases world with same | executed
      · exact same
      · rw [executed]
        exact (blocked_execute present revision unrecorded stuck idle attempt.execution).1
    rw [← kept] at present unrecorded idle
    exact (ih present unrecorded idle).trans kept

/-- What a call answers as a completion was stored as one or comes from its execution. -/
theorem completed_from {attempt : JournaledCalls.Attempt Deletion}
    {body : HostCompletionBody CompletionBody}
    (answered : ((order.call sha256 attempt).run journal scope).1 = .ok (.completed body)) :
    storedAnswer order.operation (openedLines journal scope.lines) = some (.completed body) ∨
      (executeUninstall sha256 order attempt.execution scope.world).1 =
        some (.completed body) := by
  have dispatched := call_dispatched journal (order.call sha256 attempt) scope
  rw [answered] at dispatched
  generalize ((order.call sha256 attempt).run journal scope).2.world = world at dispatched
  generalize same : Outcome.ok (HostOutcome.completed body) = o at dispatched
  cases dispatched with
  | unanswered none => exact absurd same.symm (none _)
  | conflict _ => cases same
  | stored _ answer =>
    cases same
    exact .inl answer
  | refused _ _ _ => cases same
  | executed _ _ _ given => exact .inr (given _ same.symm)

theorem amenable_converges (roomy : JournalSpace.Roomy journal.bounds)
    (begun : Start journal order scope document)
    (amenable : Amenable order document scope.world) :
    Converges journal sha256 order scope document := by
  have underway : ∀ attempts, Underway sha256 order document scope.world
      (retried journal sha256 order scope attempts) := fun attempts =>
    begun.underway.retried begun.revision begun.unrecorded attempts
  have same : undeletable document.state → ∀ attempts,
      (retried journal sha256 order scope attempts).world = scope.world := fun stuck attempts =>
    blocked_retried begun.present begun.revision begun.unrecorded stuck (amenable.blocked stuck)
      attempts
  have confined : ∀ attempts path,
      (retried journal sha256 order scope attempts).world.entries path ≠
        scope.world.entries path → covers document.state scope.world.entries path :=
    fun attempts path changed => (underway attempts).stage.within.covered path changed
  refine ⟨confined, ?_, ?_, ?_, ?_⟩
  · intro attempts object there gone
    by_cases stuck : undeletable document.state
    · rw [same stuck attempts, there] at gone
      cases gone
    · exact amenable.labelled stuck object there
  · intro attempts resource member outside
    by_cases stuck : undeletable document.state
    · rw [same stuck attempts]
    · rcases amenable.apart stuck resource member outside with absent | uncovered
      · rw [absent]
        exact (underway attempts).stage.within.entries.gone absent
      · by_contra changed
        exact uncovered (confined attempts _ changed)
  · intro stuck attempts
    have unchanged := same stuck attempts
    refine ⟨unchanged, ?_⟩
    intro last body answered
    rcases completed_from answered with stored | executed
    · have gone := (stored_final (underway attempts).known stored).1
      rw [unchanged, begun.present] at gone
      cases gone
    · rw [unchanged] at executed
      exact (blocked_execute begun.present begun.revision begun.unrecorded stuck
        (amenable.blocked stuck) last.execution).2 body executed
  · intro free attempts last fitting fits calm served
    have readable := retried_readable roomy attempts fitting
      (JournalSpace.readable_reachable roomy begun.reachable)
    have own : owned order document.state scope.world :=
      fun object there _ => amenable.labelled free object there
    exact (underway attempts).finishes roomy readable begun.revision begun.unrecorded own
      (amenable.clear free) fits calm served

/-- A first attempt that meets no fault is executed. -/
theorem first_executed (roomy : JournalSpace.Roomy journal.bounds)
    (begun : Start journal order scope document) {attempt : JournaledCalls.Attempt Deletion}
    (fits : JournalSpace.Fitting journal (order.call sha256 attempt)) (calm : Unfaulted attempt)
    (served : Served journal order attempt scope) :
    ((order.call sha256 attempt).run journal scope).2.world =
        (uninstall sha256 order attempt.execution scope.world).2 ∧
      ∀ body, ((order.call sha256 attempt).run journal scope).1 = .ok (.completed body) →
        ∃ a, (uninstall sha256 order attempt.execution scope.world).1 = .ok a := by
  have fresh : storedAnswer order.operation (openedLines journal scope.lines) = none := by
    rcases stored : storedAnswer order.operation (openedLines journal scope.lines) with _ | outcome
    · rfl
    · obtain ⟨line, member, own, _⟩ := storedAnswer_line stored
      exact absurd own (begun.unknown line ((openedLines_sublist scope.lines).subset member))
  constructor
  · obtain ⟨outcome, answer⟩ := call_answers roomy (order.call sha256 attempt) scope
      (JournalSpace.readable_reachable roomy begun.reachable) fits calm.1
      (fun world => uninstall_returns calm.2 world)
    have dispatched := call_dispatched journal (order.call sha256 attempt) scope
    rw [answer] at dispatched
    generalize ((order.call sha256 attempt).run journal scope).2.world = world at dispatched ⊢
    generalize answered : Outcome.ok outcome = o at dispatched
    cases dispatched with
    | unanswered none => exact absurd answered.symm (none _)
    | conflict found =>
      have member := List.mem_of_find?_eq_some found
      have picked := List.find?_some found
      have chosen := of_decide_eq_true picked
      exact absurd chosen.1 (begun.unknown _ ((openedLines_sublist scope.lines).subset member))
    | stored _ stored => exact absurd (fresh.symm.trans stored) (by simp)
    | refused _ unanswered full =>
      rcases served with stored | room
      · exact absurd unanswered stored
      · exact absurd room full
    | executed _ _ _ _ => exact executeUninstall_world
  · intro body answered
    rcases completed_from answered with stored | executed
    · exact absurd (fresh.symm.trans stored) (by simp)
    · exact executeUninstall_completed executed

theorem converges_amenable (roomy : JournalSpace.Roomy journal.bounds)
    (begun : Start journal order scope document) {attempt : JournaledCalls.Attempt Deletion}
    (fits : JournalSpace.Fitting journal (order.call sha256 attempt)) (calm : Unfaulted attempt)
    (served : Served journal order attempt scope)
    (converges : Converges journal sha256 order scope document) :
    Amenable order document scope.world := by
  obtain ⟨world, completes⟩ := first_executed roomy begun fits calm served
  have once : retried journal sha256 order scope [attempt] =
      ((order.call sha256 attempt).run journal scope).2 := rfl
  have attempted : Attempted sha256 order document attempt.execution scope.world
      (uninstall sha256 order attempt.execution scope.world).1
      (uninstall sha256 order attempt.execution scope.world).2 :=
    uninstall_attempted begun.present begun.revision begun.unrecorded
  have passed : ¬undeletable document.state → _ := fun free =>
    attempted.passed (by
      obtain ⟨⟨body, answered⟩, _⟩ := converges.finishes free [] attempt (by simp) fits calm served
      exact completes body answered)
  constructor
  · intro stuck begins
    have unchanged := (converges.refuses stuck [attempt]).1
    rw [once, world] at unchanged
    obtain ⟨entries, runtime⟩ := attempted.reached calm.2
    rw [unchanged] at entries runtime
    have moved : scope.world.runtime ≠ none ∧
        (deletions order document.state attempt.execution scope.world).2.runtime = none ∨
        Lost scope.world (deletions order document.state attempt.execution scope.world).2 :=
      deletions_begins calm.2 begins
    rcases moved with ⟨there, gone⟩ | ⟨path, there, gone⟩
    · exact there (runtime.trans gone)
    · exact there ((congrFun entries path).trans gone)
  · intro free
    exact (passed free).2.1
  · intro free object there
    apply converges.labelled [attempt] object there
    rw [once, world]
    exact (passed free).2.2.2.1
  · intro free resource member outside
    by_contra both
    rw [not_or, not_not] at both
    have kept := converges.spares [attempt] resource member outside
    rw [once, world, (passed free).2.2.1] at kept
    exact both.1 (kept.symm.trans (cleared_gone (passed free).2.1 both.2))

end equivalence

/-- The locator as the document spells it. -/
def locatorText (path : Path) : String :=
  String.join (path.map ("/" ++ ·))

/-- `Resource::validate`. -/
def validateResource (resource : Resource) : Bool :=
  isIdentifier 128 resource.resourceId && isIdentifier 64 resource.kind
    && locatorText resource.locator ≠ ""
    && (locatorText resource.locator).utf8ByteSize ≤ 512
    && (locatorText resource.locator).toList.all
      (fun c => 32 ≤ c.toNat && (c.toNat < 127 || 160 ≤ c.toNat))
    && !(resource.ownership = .managed && resource.scope = .shared)

/-- The resources of a document that `DeploymentState::validate` accepts. -/
def validateResources (resources : List Resource) : Bool :=
  resources.all validateResource && (resources.map (·.resourceId)).Nodup

/-- The first generation with resources of its own. -/
def withResources (resources : List Resource) : Document :=
  { generation 1 with state := { (generation 1).state with resources } }

def dataDirectory : Resource :=
  ⟨"data", "directory", ["var", "lib", "nazoauth"], .managed, .deployment⟩

def sharedMedia : Resource :=
  ⟨"media", "directory", ["var", "lib", "nazoauth", "media"], .external, .shared⟩

def externalArchive : Resource :=
  ⟨"archive", "directory", ["srv", "archive"], .external, .deployment⟩

def managedSocket : Resource :=
  ⟨"socket", "socket", ["run", "nazoauth", "main.sock"], .managed, .deployment⟩

/-- A host with the data directory, a shared one below it and another one elsewhere. -/
def sharingHost (document : Document) : Host where
  document := some document
  completion := none
  runtime := none
  entries path :=
    if path ∈ [dataDirectory.locator, sharedMedia.locator, externalArchive.locator]
    then some .directory else none

theorem first_start (document : Document) (revision : document.state.config.revision = 1) :
    Start generationJournal (uninstallOf 2) ⟨[], sharingHost document⟩ document where
  present := rfl
  revision := revision
  unrecorded := by
    intro own
    obtain ⟨completion, held, _⟩ := own
    cases held
  unknown := by simp
  reachable := .absent _

theorem first_served (world : Host) :
    Served generationJournal (uninstallOf 2) quiet ⟨[], world⟩ := by
  have opened : openedLines generationJournal ([] : List (JournalLine CompletionBody)) = [] := rfl
  have settled : unsettled [] ([] : List (JournalLine CompletionBody)).reverse = [] := rfl
  have pending : lineSize generationJournal.encode
      (pendingLine (uninstallOf 2).operation quiet.acceptedAt) = 9 := by decide
  right
  rw [opened]
  right
  rw [settled, pending]
  decide

theorem converging_amenable {document : Document}
    (revision : document.state.config.revision = 1)
    (converges : Converges generationJournal firstTime (uninstallOf 2)
      ⟨[], sharingHost document⟩ document) :
    Amenable (uninstallOf 2) document (sharingHost document) :=
  converges_amenable JournalSpace.default_roomy (first_start document revision)
    (uninstall_fitting 2 quiet) ⟨fun _ => rfl, fun _ => rfl⟩ (first_served _) converges

end NazoAuthCtl.UninstallConvergence
