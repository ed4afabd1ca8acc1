import Mathlib.Data.String.Basic
import NazoAuthCtl.JsonValue
import NazoAuthCtl.SortedMap

/-!
# Values of serialised records

A record is serialised as an object under its field names, without the optional fields that
are absent. A map has one value for each name and no order of its own, so objects are
compared as sorted members. Records of one type have the same names: if their objects are
equal, so are their fields.
-/

set_option autoImplicit false
set_option linter.all false

namespace NazoAuthCtl.WireValues

open JsonValue

/-- The fields of a record in the order of its declaration. -/
abbrev Fields := List (String × Option Json)

def names (fields : Fields) : List String := fields.map (·.1)

def present (fields : Fields) : Members :=
  fields.filterMap fun field => field.2.map fun value => (field.1, value)

def objectOf (fields : Fields) : Json := .object (SortedMap.collect (present fields))

def valueOf : Fields → String → Option Json
  | [], _ => none
  | (name, value) :: rest, key => if name = key then value else valueOf rest key

/-! ## Fields -/

theorem member_of_mem {key : String} {value : Json} {entries : Members}
    (distinct : (SortedMap.keys entries).Nodup) (inside : (key, value) ∈ entries) :
    member entries key = some value := by
  induction entries with
  | nil => cases inside
  | cons entry rest hypothesis =>
    obtain ⟨name, first⟩ := entry
    obtain ⟨outside, later⟩ := List.nodup_cons.mp distinct
    rw [member]
    obtain same | below := List.mem_cons.mp inside
    · cases same
      exact if_pos rfl
    · rw [if_neg, hypothesis later below]
      rintro rfl
      exact outside (SortedMap.mem_keys.mpr ⟨value, below⟩)

theorem member_absent {key : String} {entries : Members}
    (outside : key ∉ SortedMap.keys entries) : member entries key = none := by
  induction entries with
  | nil => rfl
  | cons entry rest hypothesis =>
    obtain ⟨name, first⟩ := entry
    have apart : key ≠ name ∧ key ∉ SortedMap.keys rest := not_or.mp (fun either =>
      outside (List.mem_cons.mpr either))
    rw [member, if_neg (Ne.symm apart.1), hypothesis apart.2]

theorem mem_present {fields : Fields} {key : String} {value : Json} :
    (key, value) ∈ present fields ↔ (key, some value) ∈ fields := by
  simp [present]

theorem present_distinct {fields : Fields} (distinct : (names fields).Nodup) :
    (SortedMap.keys (present fields)).Nodup := by
  have part : (SortedMap.keys (present fields)).Sublist (names fields) := by
    clear distinct
    induction fields with
    | nil => exact List.Sublist.slnil
    | cons field rest hypothesis =>
      obtain ⟨name, value⟩ := field
      cases value with
      | none => exact hypothesis.cons name
      | some value => exact hypothesis.cons_cons name
  exact part.nodup distinct

theorem valueOf_absent {fields : Fields} {key : String} (outside : key ∉ names fields) :
    valueOf fields key = none := by
  induction fields with
  | nil => rfl
  | cons field rest hypothesis =>
    obtain ⟨name, value⟩ := field
    have apart : key ≠ name ∧ key ∉ names rest := not_or.mp (fun either =>
      outside (List.mem_cons.mpr either))
    rw [valueOf, if_neg (Ne.symm apart.1), hypothesis apart.2]

theorem valueOf_iff {fields : Fields} (distinct : (names fields).Nodup) {key : String}
    {value : Json} : valueOf fields key = some value ↔ (key, some value) ∈ fields := by
  induction fields with
  | nil => simp [valueOf]
  | cons field rest hypothesis =>
    obtain ⟨name, first⟩ := field
    obtain ⟨outside, later⟩ := List.nodup_cons.mp distinct
    rw [valueOf, List.mem_cons]
    by_cases same : name = key
    · subst same
      rw [if_pos rfl]
      constructor
      · rintro rfl
        exact .inl rfl
      · rintro (found | below)
        · exact (Prod.mk.inj found).2.symm
        · exact absurd (List.mem_map.mpr ⟨_, below, rfl⟩) outside
    · rw [if_neg same, hypothesis later]
      constructor
      · exact .inr
      · rintro (found | below)
        · exact absurd (Prod.mk.inj found).1.symm same
        · exact below

/-- An object has the fields of its record and no other member. -/
theorem get_objectOf {fields : Fields} (distinct : (names fields).Nodup) (key : String) :
    (objectOf fields).get key = valueOf fields key := by
  have entries := present_distinct distinct
  have sorted := (SortedMap.sorted_collect (present fields)).nodup
  show member (SortedMap.collect (present fields)) key = valueOf fields key
  cases known : valueOf fields key with
  | some value =>
    have inside := mem_present.mpr ((valueOf_iff distinct).mp known)
    exact member_of_mem sorted ((SortedMap.collect_perm entries).mem_iff.mpr inside)
  | none =>
    refine member_absent ?_
    intro inside
    rw [SortedMap.mem_keys_collect] at inside
    obtain ⟨value, inside⟩ := SortedMap.mem_keys.mp inside
    rw [(valueOf_iff distinct).mpr (mem_present.mp inside)] at known
    cases known

theorem valueOf_same {f g : Fields} (distinctF : (names f).Nodup) (distinctG : (names g).Nodup)
    (same : objectOf f = objectOf g) (key : String) : valueOf f key = valueOf g key := by
  rw [← get_objectOf distinctF, ← get_objectOf distinctG, same]

theorem fields_of_values {f g : Fields} (named : names f = names g) (distinct : (names f).Nodup)
    (values : ∀ key, valueOf f key = valueOf g key) : f = g := by
  induction f generalizing g with
  | nil =>
    cases g with
    | nil => rfl
    | cons _ _ => cases named
  | cons field f hypothesis =>
    obtain ⟨name, value⟩ := field
    cases g with
    | nil => cases named
    | cons other g =>
      obtain ⟨otherName, otherValue⟩ := other
      obtain ⟨first, rest⟩ := List.cons.inj named
      have first : name = otherName := first
      have rest : names f = names g := rest
      subst first
      obtain ⟨outside, later⟩ := List.nodup_cons.mp distinct
      have head : value = otherValue := by
        have here := values name
        rwa [valueOf, if_pos rfl, valueOf, if_pos rfl] at here
      have tails : ∀ key, valueOf f key = valueOf g key := by
        intro key
        by_cases same : name = key
        · subst same
          have outsideG : name ∉ names g := by rwa [← rest]
          rw [valueOf_absent outside, valueOf_absent outsideG]
        · have here := values key
          rwa [valueOf, if_neg same, valueOf, if_neg same] at here
      rw [head, hypothesis rest later tails]

theorem objectOf_inj {f g : Fields} (same : objectOf f = objectOf g) (named : names f = names g)
    (distinct : (names f).Nodup) : f = g := by
  have distinctG : (names g).Nodup := by rwa [← named]
  exact fields_of_values named distinct (valueOf_same distinct distinctG same)

/-- Records with the same names are equal if their objects are. -/
theorem object_iff {α : Type} {fields : α → Fields}
    (named : ∀ a b, names (fields a) = names (fields b))
    (distinct : ∀ a, (names (fields a)).Nodup) (inj : ∀ a b, fields a = fields b → a = b)
    {a b : α} : objectOf (fields a) = objectOf (fields b) ↔ a = b := by
  constructor
  · intro same
    exact inj a b (objectOf_inj same (named a b) (distinct a))
  · rintro rfl
    rfl

/-- Objects that start with a tag agree on it. -/
theorem tag_same {key : String} {tagA tagB : Option Json} {a b : Fields}
    (distinctA : (names ((key, tagA) :: a)).Nodup) (distinctB : (names ((key, tagB) :: b)).Nodup)
    (same : objectOf ((key, tagA) :: a) = objectOf ((key, tagB) :: b)) : tagA = tagB := by
  have value := valueOf_same distinctA distinctB same key
  rwa [valueOf, if_pos rfl, valueOf, if_pos rfl] at value

theorem optional_iff {α : Type} {encode : α → Option Json} (defined : ∀ a, encode a ≠ none)
    (inj : ∀ a b, encode a = encode b → a = b) {a b : Option α} :
    a.bind encode = b.bind encode ↔ a = b := by
  cases a with
  | none =>
    cases b with
    | none => simp
    | some b => simpa using (defined b).symm
  | some a =>
    cases b with
    | none => simpa using defined a
    | some b =>
      simp only [Option.bind_some, Option.some.injEq]
      exact ⟨inj a b, congrArg encode⟩

/-! ## Scalars -/

def text (value : String) : Option Json := some (.string value)

def natural (value : ℕ) : Option Json := some (.number (.natural value))

def truth (value : Bool) : Option Json := some (.bool value)

def integerNumber : ℤ → JsonNumber
  | .ofNat value => .natural value
  | .negSucc value => .negative (value + 1)

def integer (value : ℤ) : Option Json := some (.number (integerNumber value))

def optionalText (value : Option String) : Option Json := value.map .string

@[simp] theorem text_inj {a b : String} : text a = text b ↔ a = b := by
  simp [text]

@[simp] theorem natural_inj {a b : ℕ} : natural a = natural b ↔ a = b := by
  simp [natural]

@[simp] theorem truth_inj {a b : Bool} : truth a = truth b ↔ a = b := by
  simp [truth]

@[simp] theorem integer_inj {a b : ℤ} : integer a = integer b ↔ a = b := by
  cases a with
  | ofNat a =>
    cases b with
    | ofNat b => simp [integer, integerNumber, Int.natCast_inj]
    | negSucc b => simp [integer, integerNumber]
  | negSucc a =>
    cases b with
    | ofNat b => simp [integer, integerNumber]
    | negSucc b => simp [integer, integerNumber]

@[simp] theorem optionalText_inj {a b : Option String} :
    optionalText a = optionalText b ↔ a = b := by
  have injective : Function.Injective Json.string := fun _ _ same => Json.string.inj same
  exact (Option.map_injective injective).eq_iff

/-! ## Base64 -/

def base64Alphabet : List Char :=
  "ABCDEFGHIJKLMNOPQRSTUVWXYZabcdefghijklmnopqrstuvwxyz0123456789+/".toList

def base64Digit (value : ℕ) : Char := base64Alphabet.getD (value % 64) '='

/-- The standard alphabet with padding. -/
def base64 : List UInt8 → List Char
  | [] => []
  | [a] => [base64Digit (a.toNat / 4), base64Digit (a.toNat % 4 * 16), '=', '=']
  | [a, b] =>
    [base64Digit (a.toNat / 4), base64Digit (a.toNat % 4 * 16 + b.toNat / 16),
      base64Digit (b.toNat % 16 * 4), '=']
  | a :: b :: c :: rest =>
    base64Digit (a.toNat / 4) :: base64Digit (a.toNat % 4 * 16 + b.toNat / 16) ::
      base64Digit (b.toNat % 16 * 4 + c.toNat / 64) :: base64Digit (c.toNat % 64) :: base64 rest

def base64Text (bytes : List UInt8) : Option Json := text (String.ofList (base64 bytes))

theorem base64Digit_get {n : ℕ} (small : n < 64) :
    ∃ inside : n < base64Alphabet.length, base64Digit n = base64Alphabet[n] := by
  have long : base64Alphabet.length = 64 := by decide
  have inside : n < base64Alphabet.length := by omega
  refine ⟨inside, ?_⟩
  rw [base64Digit, Nat.mod_eq_of_lt small, List.getD_eq_getElem?_getD,
    List.getElem?_eq_getElem inside, Option.getD_some]

theorem base64Digit_inj {m n : ℕ} (smallM : m < 64) (smallN : n < 64)
    (same : base64Digit m = base64Digit n) : m = n := by
  have distinct : base64Alphabet.Nodup := by decide
  obtain ⟨insideM, atM⟩ := base64Digit_get smallM
  obtain ⟨insideN, atN⟩ := base64Digit_get smallN
  rw [atM, atN] at same
  exact (List.Nodup.getElem_inj_iff distinct).mp same

theorem base64Digit_padding {n : ℕ} (small : n < 64) : base64Digit n ≠ '=' := by
  have outside : '=' ∉ base64Alphabet := by decide
  obtain ⟨inside, found⟩ := base64Digit_get small
  rw [found]
  intro same
  exact outside (same ▸ List.getElem_mem inside)

theorem base64_inj {bytes other : List UInt8} (same : base64 bytes = base64 other) :
    bytes = other := by
  induction bytes using base64.induct generalizing other with
  | case1 =>
    obtain _ | ⟨x, _ | ⟨y, _ | ⟨z, rest⟩⟩⟩ := other
    · rfl
    · cases same
    · cases same
    · cases same
  | case2 a =>
    have boundA := a.toNat_lt
    obtain _ | ⟨x, _ | ⟨y, _ | ⟨z, rest⟩⟩⟩ := other
    · cases same
    · have boundX := x.toNat_lt
      simp only [base64, List.cons.injEq, and_true] at same
      have high := base64Digit_inj (by omega) (by omega) same.1
      have low := base64Digit_inj (by omega) (by omega) same.2
      rw [UInt8.toNat_inj.mp (show a.toNat = x.toNat by omega)]
    · have boundY := y.toNat_lt
      simp only [base64, List.cons.injEq, and_true] at same
      exact absurd same.2.2.symm (base64Digit_padding (by omega))
    · have boundZ := z.toNat_lt
      simp only [base64, List.cons.injEq] at same
      exact absurd same.2.2.1.symm (base64Digit_padding (by omega))
  | case3 a b =>
    have boundA := a.toNat_lt
    have boundB := b.toNat_lt
    obtain _ | ⟨x, _ | ⟨y, _ | ⟨z, rest⟩⟩⟩ := other
    · cases same
    · simp only [base64, List.cons.injEq, and_true] at same
      exact absurd same.2.2 (base64Digit_padding (by omega))
    · have boundX := x.toNat_lt
      have boundY := y.toNat_lt
      simp only [base64, List.cons.injEq, and_true] at same
      have first := base64Digit_inj (by omega) (by omega) same.1
      have second := base64Digit_inj (by omega) (by omega) same.2.1
      have third := base64Digit_inj (by omega) (by omega) same.2.2
      rw [UInt8.toNat_inj.mp (show a.toNat = x.toNat by omega),
        UInt8.toNat_inj.mp (show b.toNat = y.toNat by omega)]
    · have boundZ := z.toNat_lt
      simp only [base64, List.cons.injEq] at same
      exact absurd same.2.2.2.1.symm (base64Digit_padding (by omega))
  | case4 a b c rest hypothesis =>
    have boundA := a.toNat_lt
    have boundB := b.toNat_lt
    have boundC := c.toNat_lt
    obtain _ | ⟨x, _ | ⟨y, _ | ⟨z, others⟩⟩⟩ := other
    · cases same
    · simp only [base64, List.cons.injEq] at same
      exact absurd same.2.2.1 (base64Digit_padding (by omega))
    · simp only [base64, List.cons.injEq] at same
      exact absurd same.2.2.2.1 (base64Digit_padding (by omega))
    · have boundX := x.toNat_lt
      have boundY := y.toNat_lt
      have boundZ := z.toNat_lt
      simp only [base64, List.cons.injEq] at same
      obtain ⟨first, second, third, fourth, rests⟩ := same
      have one := base64Digit_inj (by omega) (by omega) first
      have two := base64Digit_inj (by omega) (by omega) second
      have three := base64Digit_inj (by omega) (by omega) third
      have four := base64Digit_inj (by omega) (by omega) fourth
      rw [UInt8.toNat_inj.mp (show a.toNat = x.toNat by omega),
        UInt8.toNat_inj.mp (show b.toNat = y.toNat by omega),
        UInt8.toNat_inj.mp (show c.toNat = z.toNat by omega), hypothesis rests]

@[simp] theorem base64Text_inj {a b : List UInt8} : base64Text a = base64Text b ↔ a = b := by
  rw [base64Text, base64Text, text_inj]
  constructor
  · intro same
    exact base64_inj (String.ofList_inj.mp same)
  · rintro rfl
    rfl

end NazoAuthCtl.WireValues
