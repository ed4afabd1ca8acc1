import NazoAuthCtl.WireValues

/-!
# Records read from documents

A derived reader takes a record from an object whose names it knows, each at most once, or
from an array of the fields in the order of the declaration. It takes a variant without data
from its name, or from an object with that name over null. The text of a document and its tree
are one here: a tree keeps the members that a text repeats.
-/

set_option autoImplicit false
set_option linter.all false

namespace NazoAuthCtl.StructDecoding

open JsonValue WireValues

variable {α : Type}

/-- The fields of a record with the names, by name. -/
def structFields (names : List String) : Json → Option (String → Option Json)
  | .object members =>
    if (members.map (·.1)).Nodup ∧ ∀ name ∈ members.map (·.1), name ∈ names then
      some (member members)
    else none
  | .array values =>
    if values.length ≤ names.length then some fun key => values[names.idxOf key]? else none
  | _ => none

def required (read : Json → Option α) (field : Option Json) : Option α := field.bind read

/-- A field that may be absent or null. -/
def optional (read : Json → Option α) : Option Json → Option (Option α)
  | none => some none
  | some .null => some none
  | some value => (read value).map some

def variantName : Json → Option String
  | .string name => some name
  | .object [(name, .null)] => some name
  | _ => none

def readEach (read : Json → Option α) : List Json → Option (List α)
  | [] => some []
  | value :: values => do
    let first ← read value
    let rest ← readEach read values
    some (first :: rest)

def readList (read : Json → Option α) : Json → Option (List α)
  | .array values => readEach read values
  | _ => none

def readNatural (limit : ℕ) : Json → Option ℕ
  | .number (.natural value) => if value < limit then some value else none
  | _ => none

def readUInt16 (value : Json) : Option UInt16 := (readNatural 65536 value).map UInt16.ofNat

def readUInt32 (value : Json) : Option UInt32 := (readNatural 4294967296 value).map UInt32.ofNat

def readUInt64 (value : Json) : Option UInt64 :=
  (readNatural 18446744073709551616 value).map UInt64.ofNat

/-! ## Maps

A tree that is not read by a derived reader keeps the last member of each name. -/

mutual

def collapse : Json → Json
  | .array values => .array (collapseList values)
  | .object members => .object (SortedMap.collect (collapseMembers members))
  | .null => .null
  | .bool value => .bool value
  | .number value => .number value
  | .string value => .string value

def collapseList : List Json → List Json
  | [] => []
  | value :: values => collapse value :: collapseList values

def collapseMembers : Members → Members
  | [] => []
  | (name, value) :: members => (name, collapse value) :: collapseMembers members

end

def removeMember (key : String) (members : Members) : Members :=
  members.filter fun entry => entry.1 ≠ key

/-- The change of the value under a key, if there is one. -/
def updateMember (key : String) (change : Json → Json) : Members → Members
  | [] => []
  | (name, value) :: rest =>
    if name = key then (name, change value) :: rest
    else (name, value) :: updateMember key change rest

theorem member_remove (key other : String) (members : Members) :
    member (removeMember key members) other =
      if other = key then none else member members other := by
  induction members with
  | nil => simp [removeMember, member]
  | cons entry rest hypothesis =>
    obtain ⟨name, value⟩ := entry
    by_cases gone : name = key
    · subst gone
      have dropped : removeMember name ((name, value) :: rest) = removeMember name rest := by
        simp [removeMember]
      rw [dropped, hypothesis, member]
      by_cases same : other = name
      · rw [if_pos same, if_pos same]
      · rw [if_neg same, if_neg same, if_neg (Ne.symm same)]
    · have kept : removeMember key ((name, value) :: rest) =
          (name, value) :: removeMember key rest := by
        simp [removeMember, gone]
      rw [kept, member, member, hypothesis]
      by_cases here : name = other
      · subst here
        rw [if_pos rfl, if_pos rfl, if_neg gone]
      · rw [if_neg here, if_neg here]

theorem member_insert (key other : String) (value : Json) (members : Members) :
    member (SortedMap.insertEntry key value members) other =
      if other = key then some value else member members other := by
  induction members with
  | nil =>
    rw [SortedMap.insertEntry, member, member]
    by_cases same : other = key
    · rw [if_pos same.symm, if_pos same]
    · rw [if_neg (Ne.symm same), if_neg same]
      rfl
  | cons entry rest hypothesis =>
    obtain ⟨name, first⟩ := entry
    rw [SortedMap.insertEntry]
    by_cases here : key = name
    · subst here
      rw [if_pos rfl, member, member]
      by_cases same : other = key
      · rw [if_pos same.symm, if_pos same]
      · rw [if_neg (Ne.symm same), if_neg same, if_neg (Ne.symm same)]
    · rw [if_neg here]
      by_cases before : key < name
      · rw [if_pos before, member]
        by_cases same : other = key
        · rw [if_pos same.symm, if_pos same]
        · rw [if_neg (Ne.symm same), if_neg same]
      · rw [if_neg before, member, member, hypothesis]
        by_cases there : name = other
        · subst there
          rw [if_pos rfl, if_pos rfl, if_neg (Ne.symm here)]
        · rw [if_neg there, if_neg there]

theorem member_update (key other : String) (change : Json → Json) (members : Members) :
    member (updateMember key change members) other =
      if other = key then (member members other).map change else member members other := by
  induction members with
  | nil => simp [updateMember, member]
  | cons entry rest hypothesis =>
    obtain ⟨name, first⟩ := entry
    rw [updateMember]
    by_cases here : name = key
    · subst here
      rw [if_pos rfl, member, member]
      by_cases same : name = other
      · rw [if_pos same, if_pos same.symm, if_pos same]
        rfl
      · rw [if_neg same, if_neg (Ne.symm same), if_neg same]
    · rw [if_neg here, member, member, hypothesis]
      by_cases there : name = other
      · subst there
        rw [if_pos rfl, if_neg here, if_pos rfl]
      · rw [if_neg there, if_neg there]

/-! ## Records that were written are read back -/

/-- A record as it is serialised, in the order of its declaration. -/
def recordOf (fields : Fields) : Json := .object (present fields)

theorem member_present {fields : Fields} (distinct : (names fields).Nodup) (key : String) :
    member (present fields) key = valueOf fields key := by
  cases known : valueOf fields key with
  | some value =>
    exact member_of_mem (present_distinct distinct)
      (mem_present.mpr ((valueOf_iff distinct).mp known))
  | none =>
    refine member_absent ?_
    intro inside
    obtain ⟨value, inside⟩ := SortedMap.mem_keys.mp inside
    rw [(valueOf_iff distinct).mpr (mem_present.mp inside)] at known
    cases known

theorem structFields_record {fields : Fields} {listed : List String}
    (named : names fields = listed) (distinct : listed.Nodup) :
    structFields listed (recordOf fields) = some (valueOf fields) := by
  subst named
  have known : ∀ name ∈ (present fields).map (·.1), name ∈ names fields := by
    intro name inside
    obtain ⟨entry, there, rfl⟩ := List.mem_map.mp inside
    obtain ⟨key, value⟩ := entry
    exact List.mem_map.mpr ⟨_, mem_present.mp there, rfl⟩
  rw [recordOf, structFields, if_pos ⟨present_distinct distinct, known⟩, Option.some.injEq]
  exact funext (member_present distinct)

/-- The value of one field, wherever the document has it. -/
def fieldAt (listed : List String) (key : String) : Json → Option Json
  | .object members => member members key
  | .array values => values[listed.idxOf key]?
  | _ => none

theorem structFields_at {listed : List String} {value : Json} {fields : String → Option Json}
    (read : structFields listed value = some fields) (key : String) :
    fields key = fieldAt listed key value := by
  cases value with
  | object members =>
    rw [structFields] at read
    split at read
    · cases read
      rfl
    · cases read
  | array values =>
    rw [structFields] at read
    split at read
    · cases read
      rfl
    · cases read
  | null => cases read
  | bool value => cases read
  | number value => cases read
  | string value => cases read

@[simp] theorem required_some {read : Json → Option α} {value : Json} :
    required read (some value) = read value := rfl

theorem optional_present {read : Json → Option α} {value : Json} (present : value ≠ .null) :
    optional read (some value) = (read value).map some := by
  cases value with
  | null => exact absurd rfl present
  | _ => rfl

theorem optional_map {β : Type} {read : Json → Option β} {write : β → Json}
    (defined : ∀ value, write value ≠ .null) (back : ∀ value, read (write value) = some value)
    (field : Option β) : optional read (field.map write) = some field := by
  cases field with
  | none => rfl
  | some value =>
    rw [Option.map_some, optional_present (defined value), back]
    rfl

theorem readEach_map {β : Type} {read : Json → Option β} {write : β → Json}
    (back : ∀ value, read (write value) = some value) (values : List β) :
    readEach read (values.map write) = some values := by
  induction values with
  | nil => rfl
  | cons value values hypothesis =>
    rw [List.map_cons, readEach, back, hypothesis]
    rfl

theorem readUInt16_number (value : UInt16) :
    readUInt16 (.number (.natural value.toNat)) = some value := by
  have bound : value.toNat < 65536 := value.toNat_lt
  rw [readUInt16, readNatural, if_pos bound, Option.map_some, UInt16.ofNat_toNat]

theorem readUInt32_number (value : UInt32) :
    readUInt32 (.number (.natural value.toNat)) = some value := by
  have bound : value.toNat < 4294967296 := value.toNat_lt
  rw [readUInt32, readNatural, if_pos bound, Option.map_some, UInt32.ofNat_toNat]

theorem readUInt64_number (value : UInt64) :
    readUInt64 (.number (.natural value.toNat)) = some value := by
  have bound : value.toNat < 18446744073709551616 := value.toNat_lt
  rw [readUInt64, readNatural, if_pos bound, Option.map_some, UInt64.ofNat_toNat]

end NazoAuthCtl.StructDecoding
