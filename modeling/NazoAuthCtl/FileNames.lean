import Mathlib.Data.List.Basic

/-!
# File names and paths

A path is the list of its components. The stem of a file name is what stands before its
last dot, or all of it if the only dot is its first character. Two paths are apart if
neither leads through the other.
-/

set_option autoImplicit false
set_option linter.all false

namespace NazoAuthCtl.FileNames

/-- What stands before the last dot, if there is one. -/
def beforeLastDot : List Char → Option (List Char)
  | [] => none
  | c :: rest =>
    match beforeLastDot rest with
    | some before => some (c :: before)
    | none => if c = '.' then some [] else none

theorem beforeLastDot_plain {name : List Char} (plain : '.' ∉ name) :
    beforeLastDot name = none := by
  induction name with
  | nil => rfl
  | cons c name ih =>
    obtain ⟨first, others⟩ := not_or.mp (List.mem_cons.not.mp plain)
    rw [beforeLastDot, ih others]
    exact if_neg (Ne.symm first)

theorem beforeLastDot_append (name : List Char) {extension : List Char} (plain : '.' ∉ extension) :
    beforeLastDot (name ++ '.' :: extension) = some name := by
  induction name with
  | nil =>
    rw [List.nil_append, beforeLastDot, beforeLastDot_plain plain]
    exact if_pos rfl
  | cons c name ih => rw [List.cons_append, beforeLastDot, ih]

def fileStem (name : String) : String :=
  match beforeLastDot name.toList with
  | some (c :: before) => String.ofList (c :: before)
  | _ => name

/-- The name with its extension replaced, or added if it has none. -/
def replaceExtension (name extension : String) : String := fileStem name ++ ("." ++ extension)

theorem fileStem_nonempty {name : String} (nonempty : name ≠ "") : fileStem name ≠ "" := by
  unfold fileStem
  cases beforeLastDot name.toList with
  | none => exact nonempty
  | some before =>
    cases before with
    | nil => exact nonempty
    | cons c before => simp [← String.toList_inj]

theorem fileStem_append {stem : String} (nonempty : stem ≠ "") {extension : String}
    (plain : '.' ∉ extension.toList) : fileStem (stem ++ ("." ++ extension)) = stem := by
  have dotted : (stem ++ ("." ++ extension)).toList = stem.toList ++ '.' :: extension.toList := by
    simp
  unfold fileStem
  rw [dotted, beforeLastDot_append stem.toList plain]
  cases letters : stem.toList with
  | nil => exact absurd (String.toList_inj.mp letters) nonempty
  | cons c before =>
    change String.ofList (c :: before) = stem
    rw [← letters, String.ofList_toList]

theorem append_right_inj {stem other : String} (extension : String) :
    stem ++ extension = other ++ extension ↔ stem = other := by
  rw [← String.toList_inj, String.toList_append, String.toList_append, List.append_left_inj,
    String.toList_inj]

/-! ## Paths -/

/-- `Path::with_extension`. A path without a file name stays as it is. -/
def withExtension (path : List String) (extension : String) : List String :=
  match path.getLast? with
  | none => path
  | some name =>
    if name = ".." then path else path.dropLast ++ [replaceExtension name extension]

theorem withExtension_append (directory : List String) {name : String} (named : name ≠ "..")
    (extension : String) : withExtension (directory ++ [name]) extension =
      directory ++ [replaceExtension name extension] := by
  simp [withExtension, named]

/-- Neither path is the other one or leads through it. -/
def Apart (path other : List String) : Prop := ¬path <+: other ∧ ¬other <+: path

instance (path other : List String) : Decidable (Apart path other) :=
  inferInstanceAs (Decidable (_ ∧ _))

theorem Apart.symm {path other : List String} (h : Apart path other) : Apart other path :=
  ⟨h.2, h.1⟩

/-- What lies below paths that are apart is apart. -/
theorem Apart.below {path other path' other' : List String} (h : Apart path other)
    (below : path <+: path') (below' : other <+: other') : Apart path' other' := by
  constructor
  · intro leads
    rcases List.prefix_or_prefix_of_prefix (below.trans leads) below' with first | second
    · exact h.1 first
    · exact h.2 second
  · intro leads
    rcases List.prefix_or_prefix_of_prefix below (below'.trans leads) with first | second
    · exact h.1 first
    · exact h.2 second

/-- Two sets of paths are apart if the entries they lie below are. -/
theorem apart_iff_entries {paths others entries entries' : List (List String)}
    (below : ∀ path ∈ paths, ∃ entry ∈ entries, entry <+: path)
    (below' : ∀ path ∈ others, ∃ entry ∈ entries', entry <+: path)
    (listed : entries ⊆ paths) (listed' : entries' ⊆ others) :
    (∀ path ∈ paths, ∀ other ∈ others, Apart path other) ↔
      ∀ entry ∈ entries, ∀ entry' ∈ entries', Apart entry entry' := by
  constructor
  · exact fun h entry member entry' member' => h entry (listed member) entry' (listed' member')
  · intro h path member other member'
    obtain ⟨entry, lists, leads⟩ := below path member
    obtain ⟨entry', lists', leads'⟩ := below' other member'
    exact (h entry lists entry' lists').below leads leads'

theorem apart_names (directory : List String) {name other : String} :
    Apart (directory ++ [name]) (directory ++ [other]) ↔ name ≠ other := by
  simp [Apart, List.prefix_append_right_inj, List.cons_prefix_cons, eq_comm]

theorem apart_directories (directory : List String) {name other : String}
    (path path' : List String) (distinct : name ≠ other) :
    Apart (directory ++ name :: path) (directory ++ other :: path') := by
  simp [Apart, List.prefix_append_right_inj, List.cons_prefix_cons, distinct, Ne.symm distinct]

end NazoAuthCtl.FileNames
