import NazoAuthCtl.StructDecoding

/-!
# Edits of trees

What an edit of a tree leaves as it was: a value at a path is untouched where the path and the
paths of the edited fields part. And the tree in which each text is replaced by a value, while
everything else stays.
-/

set_option autoImplicit false
set_option linter.all false

namespace NazoAuthCtl.JsonEdits

open JsonValue StructDecoding

abbrev Path := List String

/-- Two paths, of which neither is a beginning of the other. -/
def Apart (field path : Path) : Prop := ¬field <+: path ∧ ¬path <+: field

/-- Every value apart from the fields stays where it was. -/
def Untouched (fields : List Path) (before after : Json) : Prop :=
  ∀ path, (∀ field ∈ fields, Apart field path) → after.pointer path = before.pointer path

section Frames

variable {fields more : List Path} {a b c : Json} {members inner : Members} {key : String}

theorem untouched_refl : Untouched fields a a := fun _ _ => rfl

theorem untouched_trans (first : Untouched fields a b) (second : Untouched fields b c) :
    Untouched fields a c :=
  fun path apart => (second path apart).trans (first path apart)

theorem untouched_mono (within : fields ⊆ more) (edit : Untouched fields a b) :
    Untouched more a b :=
  fun path apart => edit path fun field inside => apart field (within inside)

theorem apart_nonempty {field path : Path} (apart : Apart field path) : path ≠ [] := by
  rintro rfl
  exact apart.2 List.nil_prefix

/-- The write of one member. -/
theorem untouched_insert (value : Json) :
    Untouched [[key]] (.object members) (.object (SortedMap.insertEntry key value members)) := by
  intro path apart
  have parted := apart [key] List.mem_cons_self
  cases path with
  | nil => exact absurd rfl (apart_nonempty parted)
  | cons name rest =>
    have other : name ≠ key := by
      rintro rfl
      exact parted.1 ⟨rest, rfl⟩
    rw [Json.pointer, Json.pointer, Json.get, Json.get, member_insert, if_neg other]

theorem apart_under {field path : Path} (apart : Apart (key :: field) (key :: path)) :
    Apart field path :=
  ⟨fun first => apart.1 (List.prefix_cons_inj key |>.mpr first),
    fun second => apart.2 (List.prefix_cons_inj key |>.mpr second)⟩

/-- The write of an object in the place of the one under a key, or of none. -/
theorem untouched_under (nonempty : fields ≠ []) {edited : Members}
    (was : member members key = some (.object inner) ∨
      (member members key = none ∧ inner = []))
    (edit : Untouched fields (.object inner) (.object edited)) :
    Untouched (fields.map (key :: ·)) (.object members)
      (.object (SortedMap.insertEntry key (.object edited) members)) := by
  intro path apart
  obtain ⟨first, inside⟩ := List.exists_mem_of_ne_nil fields nonempty
  have parted := apart (key :: first) (List.mem_map.mpr ⟨first, inside, rfl⟩)
  cases path with
  | nil => exact absurd rfl (apart_nonempty parted)
  | cons name rest =>
    by_cases same : name = key
    · subst same
      have below : ∀ field ∈ fields, Apart field rest := fun field there =>
        apart_under (apart (name :: field) (List.mem_map.mpr ⟨field, there, rfl⟩))
      have kept := edit rest below
      rw [Json.pointer, Json.pointer, Json.get, Json.get, member_insert, if_pos rfl]
      rcases was with held | ⟨absent, rfl⟩
      · rw [held]
        exact kept
      · rw [absent]
        cases rest with
        | nil => exact absurd rfl (apart_nonempty (below first inside))
        | cons next rest => exact kept
    · rw [Json.pointer, Json.pointer, Json.get, Json.get, member_insert, if_neg same]

theorem pointer_single (key : String) :
    (Json.object members).pointer [key] = member members key := by
  rw [Json.pointer, Json.get]
  cases member members key with
  | none => rfl
  | some value => rfl

/-- A member apart from the fields stays. -/
theorem untouched_member {edited : Members} (edit : Untouched fields (.object members)
    (.object edited)) (apart : ∀ field ∈ fields, Apart field [key]) :
    member edited key = member members key := by
  rw [← pointer_single, ← pointer_single]
  exact edit [key] apart

theorem apart_names {a b : String} (different : a ≠ b) (rest other : Path) :
    Apart (a :: rest) (b :: other) :=
  ⟨fun first => different (List.cons_prefix_cons.mp first).1,
    fun second => different (List.cons_prefix_cons.mp second).1.symm⟩

end Frames

/-! ## Replaced texts -/

section Texts

variable (replace : String → Json)

mutual

def replaceTexts : Json → Json
  | .array values => .array (replaceEach values)
  | .object members => .object (replaceMembers members)
  | .string text => replace text
  | .null => .null
  | .bool value => .bool value
  | .number value => .number value

def replaceEach : List Json → List Json
  | [] => []
  | value :: values => replaceTexts value :: replaceEach values

def replaceMembers : Members → Members
  | [] => []
  | (key, value) :: members => (key, replaceTexts value) :: replaceMembers members

end

end Texts

end NazoAuthCtl.JsonEdits
