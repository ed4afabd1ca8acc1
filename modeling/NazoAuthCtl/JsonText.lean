import Mathlib.Algebra.GroupWithZero.Nat
import Mathlib.Data.List.Basic

/-!
# The text of JSON values

Values are printed the way a pretty printer with an indentation of two does. A printer
gives its text at a depth of nesting. The text of a value is at least as long as the
strings in it.
-/

set_option autoImplicit false
set_option linter.all false

namespace NazoAuthCtl.JsonText

abbrev Printer := ℕ → String

/-- The two hexadecimal digits of a code below 256. -/
def hexDigits (code : ℕ) : List Char := [Nat.digitChar (code / 16), Nat.digitChar (code % 16)]

def escapeChar (c : Char) : List Char :=
  if c = '"' then ['\\', '"']
  else if c = '\\' then ['\\', '\\']
  else if c = '\x08' then ['\\', 'b']
  else if c = '\x0c' then ['\\', 'f']
  else if c = '\n' then ['\\', 'n']
  else if c = '\r' then ['\\', 'r']
  else if c = '\t' then ['\\', 't']
  else if c.toNat < 32 then ['\\', 'u', '0', '0'] ++ hexDigits c.toNat
  else [c]

/-- A string between quotes. -/
def quoted (text : String) : String :=
  "\"" ++ String.ofList (text.toList.flatMap escapeChar) ++ "\""

def string (text : String) : Printer := fun _ => quoted text

def bool (value : Bool) : Printer := fun _ => if value then "true" else "false"

def number (value : ℕ) : Printer := fun _ => toString value

def null : Printer := fun _ => "null"

def optional {α : Type} (print : α → Printer) : Option α → Printer
  | none => null
  | some value => print value

def indentation (depth : ℕ) : String := String.ofList (List.replicate (2 * depth) ' ')

/-- Entries on lines of their own. -/
def lines (separator : String) : List String → String
  | [] => ""
  | [entry] => entry
  | entry :: rest => entry ++ separator ++ lines separator rest

def block (opening closing : String) (depth : ℕ) (entries : List String) : String :=
  if entries = [] then opening ++ closing
  else opening ++ "\n" ++ indentation (depth + 1)
    ++ lines (",\n" ++ indentation (depth + 1)) entries
    ++ "\n" ++ indentation depth ++ closing

def array (items : List Printer) : Printer := fun depth =>
  block "[" "]" depth (items.map (· (depth + 1)))

def object (fields : List (String × Printer)) : Printer := fun depth =>
  block "\x7b" "\x7d" depth (fields.map fun field => quoted field.1 ++ ": " ++ field.2 (depth + 1))

/-! ## Sizes -/

theorem length_le_size (text : List Char) : text.length ≤ (String.ofList text).utf8ByteSize := by
  induction text with
  | nil => exact Nat.zero_le _
  | cons c text ih =>
    have parts : String.ofList (c :: text) = String.singleton c ++ String.ofList text := by
      rw [String.singleton_eq_ofList, ← String.ofList_append, List.singleton_append]
    rw [parts, String.utf8ByteSize_append, String.utf8ByteSize_singleton, List.length_cons]
    have := c.utf8Size_pos
    omega

theorem escapeChar_nonempty (c : Char) : 1 ≤ (escapeChar c).length := by
  unfold escapeChar
  split_ifs <;> simp

/-- Escapes do not shorten a string. -/
theorem length_le_quoted (text : String) : text.toList.length ≤ (quoted text).utf8ByteSize := by
  have escaped : ∀ letters : List Char, letters.length ≤ (letters.flatMap escapeChar).length := by
    intro letters
    induction letters with
    | nil => exact Nat.zero_le _
    | cons c letters ih =>
      have := escapeChar_nonempty c
      simp only [List.flatMap_cons, List.length_cons, List.length_append]
      omega
  have printed := length_le_size (text.toList.flatMap escapeChar)
  have letters := escaped text.toList
  rw [quoted, String.utf8ByteSize_append, String.utf8ByteSize_append]
  omega

theorem size_lines (separator : String) {entry : String} {entries : List String}
    (member : entry ∈ entries) : entry.utf8ByteSize ≤ (lines separator entries).utf8ByteSize := by
  induction entries with
  | nil => cases member
  | cons first rest ih =>
    cases rest with
    | nil =>
      rw [List.mem_singleton.mp member]
      exact Nat.le_refl _
    | cons next rest =>
      simp only [lines, String.utf8ByteSize_append] at ih ⊢
      rcases List.mem_cons.mp member with rfl | later
      · omega
      · have := ih later
        omega

theorem size_block (opening closing : String) (depth : ℕ) {entry : String} {entries : List String}
    (member : entry ∈ entries) :
    entry.utf8ByteSize ≤ (block opening closing depth entries).utf8ByteSize := by
  have printed := size_lines (",\n" ++ indentation (depth + 1)) member
  rw [block, if_neg (List.ne_nil_of_mem member)]
  simp only [String.utf8ByteSize_append] at printed ⊢
  omega

/-- The text of an object is at least as long as that of each of its values. -/
theorem size_object {name : String} {value : Printer} {fields : List (String × Printer)}
    (member : (name, value) ∈ fields) (depth : ℕ) :
    (value (depth + 1)).utf8ByteSize ≤ (object fields depth).utf8ByteSize := by
  have printed := size_block "\x7b" "\x7d" depth (List.mem_map.mpr ⟨(name, value), member, rfl⟩ :
    quoted name ++ ": " ++ value (depth + 1) ∈
      fields.map fun field => quoted field.1 ++ ": " ++ field.2 (depth + 1))
  rw [String.utf8ByteSize_append] at printed
  exact Nat.le_trans (Nat.le_add_left _ _) printed

/-! ## Exact sizes -/

theorem size_ofList_replicate (count : ℕ) :
    (String.ofList (List.replicate count ' ')).utf8ByteSize = count := by
  induction count with
  | zero => rfl
  | succ count ih =>
    have parts : String.ofList (List.replicate (count + 1) ' ') =
        String.singleton ' ' ++ String.ofList (List.replicate count ' ') := by
      rw [String.singleton_eq_ofList, ← String.ofList_append, List.singleton_append,
        List.replicate_succ]
    rw [parts, String.utf8ByteSize_append, String.utf8ByteSize_singleton, ih]
    exact Nat.add_comm 1 count

theorem size_indentation (depth : ℕ) : (indentation depth).utf8ByteSize = 2 * depth :=
  size_ofList_replicate _

/-- The size of entries between separators. -/
def linesSize (separator : ℕ) : List ℕ → ℕ
  | [] => 0
  | [entry] => entry
  | entry :: rest => entry + separator + linesSize separator rest

theorem size_lines_eq (separator : String) (entries : List String) :
    (lines separator entries).utf8ByteSize =
      linesSize separator.utf8ByteSize (entries.map String.utf8ByteSize) := by
  induction entries with
  | nil => rfl
  | cons first rest ih =>
    cases rest with
    | nil => rfl
    | cons next rest =>
      simp only [lines, String.utf8ByteSize_append, List.map_cons, linesSize] at ih ⊢
      rw [ih]

/-- The size of entries on lines of their own, at a depth. -/
def blockSize (depth : ℕ) (entries : List ℕ) : ℕ :=
  if entries = [] then 2
  else 2 * depth + 6 + linesSize (2 * depth + 4) entries + 2 * depth

theorem blockSize_cons (depth entry : ℕ) (entries : List ℕ) :
    blockSize depth (entry :: entries) =
      2 * depth + 6 + linesSize (2 * depth + 4) (entry :: entries) + 2 * depth :=
  if_neg (List.cons_ne_nil entry entries)

theorem size_block_eq {opening closing : String} (one : opening.utf8ByteSize = 1)
    (other : closing.utf8ByteSize = 1) (depth : ℕ) (entries : List String) :
    (block opening closing depth entries).utf8ByteSize =
      blockSize depth (entries.map String.utf8ByteSize) := by
  have newline : "\n".utf8ByteSize = 1 := by decide
  have comma : ",\n".utf8ByteSize = 2 := by decide
  unfold block blockSize
  by_cases none : entries = []
  · rw [none, if_pos rfl, List.map_nil, if_pos rfl, String.utf8ByteSize_append, one, other]
  · rw [if_neg none, if_neg fun empty => none (List.map_eq_nil_iff.mp empty)]
    simp only [String.utf8ByteSize_append, size_lines_eq, size_indentation, one, other, newline,
      comma]
    have same : 2 + 2 * (depth + 1) = 2 * depth + 4 := by omega
    rw [same]
    omega

theorem size_array (items : List Printer) (depth : ℕ) :
    (array items depth).utf8ByteSize =
      blockSize depth (items.map fun item => (item (depth + 1)).utf8ByteSize) := by
  have sized := size_block_eq (show "[".utf8ByteSize = 1 by decide)
    (show "]".utf8ByteSize = 1 by decide) depth (items.map (· (depth + 1)))
  rw [List.map_map] at sized
  exact sized

theorem size_object_eq (fields : List (String × Printer)) (depth : ℕ) :
    (object fields depth).utf8ByteSize = blockSize depth (fields.map fun field =>
      (quoted field.1).utf8ByteSize + 2 + (field.2 (depth + 1)).utf8ByteSize) := by
  have colon : ": ".utf8ByteSize = 2 := by decide
  have sized := size_block_eq (show "\x7b".utf8ByteSize = 1 by decide)
    (show "\x7d".utf8ByteSize = 1 by decide) depth
    (fields.map fun field => quoted field.1 ++ ": " ++ field.2 (depth + 1))
  rw [List.map_map] at sized
  unfold object
  rw [sized]
  congr 1
  apply List.map_congr_left
  intro field _
  simp only [Function.comp_apply, String.utf8ByteSize_append, colon]

/-! ## Bounds -/

theorem size_ofList_cons (c : Char) (text : List Char) :
    (String.ofList (c :: text)).utf8ByteSize =
      c.utf8Size + (String.ofList text).utf8ByteSize := by
  have parts : String.ofList (c :: text) = String.singleton c ++ String.ofList text := by
    rw [String.singleton_eq_ofList, ← String.ofList_append, List.singleton_append]
  rw [parts, String.utf8ByteSize_append, String.utf8ByteSize_singleton]

/-- An escape has at most six characters, of one byte each. -/
theorem escapeChar_size (c : Char) :
    (String.ofList (escapeChar c)).utf8ByteSize ≤ 6 * c.utf8Size := by
  have positive := c.utf8Size_pos
  have digit : ∀ n < 32,
      (String.ofList (['\\', 'u', '0', '0'] ++ hexDigits n)).utf8ByteSize = 6 := by
    decide
  have two : ∀ d : Char, d.utf8Size = 1 → (String.ofList ['\\', d]).utf8ByteSize = 2 := by
    intro d one
    rw [size_ofList_cons, size_ofList_cons, one]
    rfl
  unfold escapeChar
  split_ifs with h1 h2 h3 h4 h5 h6 h7 control
  · rw [two _ rfl]; omega
  · rw [two _ rfl]; omega
  · rw [two _ rfl]; omega
  · rw [two _ rfl]; omega
  · rw [two _ rfl]; omega
  · rw [two _ rfl]; omega
  · rw [two _ rfl]; omega
  · rw [digit _ control]; omega
  · rw [size_ofList_cons]
    have empty : (String.ofList []).utf8ByteSize = 0 := rfl
    omega

theorem quoted_size_le (text : String) :
    (quoted text).utf8ByteSize ≤ 6 * text.utf8ByteSize + 2 := by
  have escaped : ∀ letters : List Char,
      (String.ofList (letters.flatMap escapeChar)).utf8ByteSize ≤
        6 * (String.ofList letters).utf8ByteSize := by
    intro letters
    induction letters with
    | nil => exact Nat.le_refl _
    | cons c letters ih =>
      have first := escapeChar_size c
      rw [List.flatMap_cons, String.ofList_append, String.utf8ByteSize_append, size_ofList_cons]
      omega
  have printed := escaped text.toList
  have quote : "\"".utf8ByteSize = 1 := rfl
  rw [String.ofList_toList] at printed
  rw [quoted, String.utf8ByteSize_append, String.utf8ByteSize_append, quote]
  omega

theorem string_size_le {text : String} {bound : ℕ} (short : 6 * text.utf8ByteSize + 2 ≤ bound)
    (depth : ℕ) : (string text depth).utf8ByteSize ≤ bound :=
  Nat.le_trans (quoted_size_le text) short

theorem linesSize_le (separator : ℕ) (entries : List ℕ) :
    linesSize separator entries ≤ entries.sum + entries.length * separator := by
  induction entries with
  | nil => exact Nat.zero_le _
  | cons first rest ih =>
    cases rest with
    | nil =>
      simp only [linesSize, List.sum_cons, List.sum_nil, List.length_singleton]
      omega
    | cons next rest =>
      rw [List.sum_cons, List.length_cons, Nat.succ_mul]
      simp only [linesSize]
      omega

/-- An object is no longer than bounds on its names and on each of its values allow. -/
theorem size_object_le (name : ℕ) (bounds : List ℕ) {depth : ℕ}
    {fields : List (String × Printer)}
    (named : ∀ label ∈ fields.map Prod.fst, label.utf8ByteSize ≤ name)
    (valued : List.Forall₂ (fun field bound => (field.2 (depth + 1)).utf8ByteSize ≤ bound)
      fields bounds) :
    (object fields depth).utf8ByteSize ≤
      4 * depth + 6 + (bounds.sum + fields.length * (6 * name + 2 * depth + 8)) := by
  have entries := linesSize_le (2 * depth + 4) (fields.map fun field =>
    (quoted field.1).utf8ByteSize + 2 + (field.2 (depth + 1)).utf8ByteSize)
  have total : (fields.map fun field =>
      (quoted field.1).utf8ByteSize + 2 + (field.2 (depth + 1)).utf8ByteSize).sum ≤
      bounds.sum + fields.length * (6 * name + 4) := by
    clear entries
    induction valued with
    | nil => exact Nat.zero_le _
    | @cons field bound fields bounds small _ ih =>
      have label := quoted_size_le field.1
      rw [List.map_cons] at named
      have short := named field.1 List.mem_cons_self
      have rest := ih fun label member => named label (List.mem_cons_of_mem _ member)
      rw [List.map_cons, List.sum_cons, List.sum_cons, List.length_cons, Nat.succ_mul]
      omega
  have parts : fields.length * (6 * name + 2 * depth + 8) =
      fields.length * (6 * name + 4) + fields.length * (2 * depth + 4) := by
    rw [← Nat.mul_add]
    congr 1
    omega
  rw [List.length_map] at entries
  rw [size_object_eq]
  unfold blockSize
  split_ifs
  · omega
  · omega

theorem size_array_le (bounds : List ℕ) {depth : ℕ} {items : List Printer}
    (valued : List.Forall₂ (fun item bound => (item (depth + 1)).utf8ByteSize ≤ bound)
      items bounds) :
    (array items depth).utf8ByteSize ≤
      4 * depth + 6 + (bounds.sum + items.length * (2 * depth + 4)) := by
  have entries := linesSize_le (2 * depth + 4) (items.map fun item =>
    (item (depth + 1)).utf8ByteSize)
  have total : (items.map fun item => (item (depth + 1)).utf8ByteSize).sum ≤ bounds.sum := by
    clear entries
    induction valued with
    | nil => exact Nat.le_refl _
    | cons small _ ih =>
      rw [List.map_cons, List.sum_cons, List.sum_cons]
      omega
  rw [List.length_map] at entries
  rw [size_array]
  unfold blockSize
  split_ifs
  · omega
  · omega

end NazoAuthCtl.JsonText
