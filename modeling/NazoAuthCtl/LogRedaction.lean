import NazoAuthCtl.ControlDelivery
import NazoAuthCtl.JsonValue
import NazoAuthCtl.RedactionScan

/-!
# Redaction of log lines

A line that is JSON is redacted by its members, any other by the scanner of text. What a target
shows of a line is bounded to 200 characters. A secret is hidden when no two values of its field
make a difference in what is shown.
-/

set_option autoImplicit false
set_option linter.all false

namespace NazoAuthCtl.LogRedaction

open ControlDelivery JsonValue RedactionScan

/-! ## The redaction of a line -/

mutual

def redactJson : Json → Json
  | .object members => .object (redactMembers members)
  | .array values => .array (redactEach values)
  | .string text => .string (String.ofList (redactText text.toList))
  | .null => .null
  | .bool value => .bool value
  | .number value => .number value

def redactEach : List Json → List Json
  | [] => []
  | value :: values => redactJson value :: redactEach values

def redactMembers : Members → Members
  | [] => []
  | (name, value) :: members =>
    (name, if sensitive name.toList then .string "[redacted]" else redactJson value) ::
      redactMembers members

end

/-- `serde_json::from_str` is `parse`, and `to_string` is `print`. -/
def redactLogLine (parse : String → Option Json) (print : Json → String) (line : String) :
    String :=
  sanitize (match parse line with
    | some value => print (redactJson value)
    | none => String.ofList (redactText line.toList))

/-! ## Values that agree outside their secrets -/

mutual

/-- Values that differ in members with a sensitive name alone. -/
inductive Agree : Json → Json → Prop
  | same (value : Json) : Agree value value
  | array {values others : List Json} : AgreeEach values others →
      Agree (.array values) (.array others)
  | object {members others : Members} : AgreeMembers members others →
      Agree (.object members) (.object others)

inductive AgreeEach : List Json → List Json → Prop
  | nil : AgreeEach [] []
  | cons {value other : Json} {values others : List Json} : Agree value other →
      AgreeEach values others → AgreeEach (value :: values) (other :: others)

inductive AgreeMembers : Members → Members → Prop
  | nil : AgreeMembers [] []
  | secret {name : String} {members others : Members} (value other : Json) :
      sensitive name.toList = true → AgreeMembers members others →
        AgreeMembers ((name, value) :: members) ((name, other) :: others)
  | plain {name : String} {value other : Json} {members others : Members} : Agree value other →
      AgreeMembers members others →
        AgreeMembers ((name, value) :: members) ((name, other) :: others)

end

mutual

theorem redactJson_agree : ∀ {value other : Json}, Agree value other →
    redactJson value = redactJson other
  | _, _, .same _ => rfl
  | _, _, .array each => by rw [redactJson, redactJson, redactEach_agree each]
  | _, _, .object each => by rw [redactJson, redactJson, redactMembers_agree each]

theorem redactEach_agree : ∀ {values others : List Json}, AgreeEach values others →
    redactEach values = redactEach others
  | _, _, .nil => rfl
  | _, _, .cons first rest => by
    rw [redactEach, redactEach, redactJson_agree first, redactEach_agree rest]

theorem redactMembers_agree : ∀ {members others : Members}, AgreeMembers members others →
    redactMembers members = redactMembers others
  | _, _, .nil => rfl
  | _, _, .secret _ _ hidden rest => by
    rw [redactMembers, redactMembers, if_pos hidden, if_pos hidden, redactMembers_agree rest]
  | _, _, .plain first rest => by
    rw [redactMembers, redactMembers, redactJson_agree first, redactMembers_agree rest]

end

/-! ## What is shown of a text -/

def plainChar (c : Char) : Char :=
  if c.toNat < 0x20 ∨ (0x7f ≤ c.toNat ∧ c.toNat ≤ 0x9f) then '?' else c

def shown (text : List Char) : List Char :=
  if 200 < text.length then (text.take 200).map plainChar ++ ['…']
  else (text.take 200).map plainChar

theorem sanitize_shown (text : List Char) :
    sanitize (String.ofList text) = String.ofList (shown text) := by
  rw [sanitize, String.toList_ofList, ← String.length_toList, String.toList_ofList]
  rfl

theorem sanitize_same {a b : List Char} :
    sanitize (String.ofList a) = sanitize (String.ofList b) ↔ shown a = shown b := by
  rw [sanitize_shown, sanitize_shown]
  exact ⟨fun same => String.ofList_injective same, fun same => congrArg String.ofList same⟩

theorem shown_take (text : List Char) : (shown text).take 200 = (text.take 200).map plainChar := by
  rw [shown]
  split
  · next long =>
    have full : ((text.take 200).map plainChar).length = 200 := by
      rw [List.length_map, List.length_take]
      omega
    rw [List.take_append_of_le_length full.ge, List.take_of_length_le full.le]
  · rw [List.take_of_length_le]
    rw [List.length_map, List.length_take]
    omega

theorem shown_length (text : List Char) : (shown text).length = min 201 text.length := by
  rw [shown]
  split
  · rw [List.length_append, List.length_map, List.length_take, List.length_singleton]
    omega
  · rw [List.length_map, List.length_take]
    omega

/-- What is shown of two texts is the same when they part behind the part that is shown. -/
theorem shown_full {front a b : List Char}
    (full : 200 < front.length ∨ (front.length = 200 ∧ a ≠ [] ∧ b ≠ [])) :
    shown (front ++ a) = shown (front ++ b) := by
  have start (rest : List Char) : (front ++ rest).take 200 = front.take 200 :=
    List.take_append_of_le_length (by omega)
  have long (rest : List Char) (more : 200 < front.length ∨ (front.length = 200 ∧ rest ≠ [])) :
      200 < (front ++ rest).length := by
    rw [List.length_append]
    rcases more with more | ⟨exact, nonempty⟩
    · omega
    · have := List.length_pos_iff.mpr nonempty
      omega
  have first := long a (full.imp id fun ⟨exact, nonempty, _⟩ => ⟨exact, nonempty⟩)
  have second := long b (full.imp id fun ⟨exact, _, nonempty⟩ => ⟨exact, nonempty⟩)
  rw [shown, shown, if_pos first, if_pos second, start, start]

/-- A character within the part that is shown. -/
theorem shown_char {front a b : List Char} {x y : Char} (short : front.length < 200)
    (same : shown (front ++ x :: a) = shown (front ++ y :: b)) : plainChar x = plainChar y := by
  have start : ((front ++ x :: a).take 200).map plainChar =
      ((front ++ y :: b).take 200).map plainChar := by
    rw [← shown_take, ← shown_take, same]
  have at_front (c : Char) (rest : List Char) :
      (((front ++ c :: rest).take 200).map plainChar)[front.length]? = some (plainChar c) := by
    rw [List.getElem?_map, List.getElem?_take_of_lt short,
      List.getElem?_append_right (Nat.le_refl _), Nat.sub_self]
    rfl
  have one := at_front x a
  rw [start, at_front y b] at one
  exact (Option.some.inj one).symm

theorem shown_longer {a b : List Char} (exact : a.length = 200) (long : 200 < b.length) :
    shown a ≠ shown b := by
  intro same
  have lengths := congrArg List.length same
  rw [shown_length, shown_length] at lengths
  omega

/-! ## The field of a secret -/

inductive Form where
  | quoted (quote : Char)
  /-- The rest of the line of a header. -/
  | header
  | run
  deriving DecidableEq, Repr

/-- A sensitive name with a separator, and what stands around its value. The name is a whole one,
and the blanks reach up to the value. -/
structure Occurrence where
  before : List Char
  name : List Char
  closing : List Char
  spaces : List Char
  separator : Char
  blanks : List Char
  form : Form
  behind : List Char
  starts : ∀ c, before.getLast? = some c → isNameChar c = false
  letters : name.all isNameChar = true
  secret : sensitive name = true
  closes : closing = [] ∨ ∃ quote, isQuote quote = true ∧ closing = [quote]
  spaced : spaces.all isBlank = true
  separates : isSeparator separator = true
  blank : blanks.all isBlank = true
  quotes : ∀ quote, form = .quoted quote → isQuote quote = true
  rest : form = .header → isHeader name = true ∧ behind = []
  ends : form = .run → isHeader name = false ∧
    ∀ c, behind.head? = some c → isDelimiter c = true

/-- What stands between the quotes of a value. A backslash takes the next character with it. -/
inductive Inside (quote : Char) : List Char → Prop
  | nil : Inside quote []
  | plain {c : Char} {text : List Char} : c ≠ quote → c ≠ '\\' → Inside quote text →
      Inside quote (c :: text)
  | escape {c : Char} {text : List Char} : Inside quote text → Inside quote ('\\' :: c :: text)

namespace Occurrence

variable (field : Occurrence)

def lead : List Char :=
  field.before ++ (field.name ++ (field.closing ++ (field.spaces ++
    (field.separator :: field.blanks))))

/-- The values of a field. A quoted value that is not closed takes the rest of the line. -/
inductive Value : List Char → Prop
  | closed {quote : Char} {text : List Char} : field.form = .quoted quote → Inside quote text →
      Value (quote :: (text ++ [quote]))
  | unclosed {quote : Char} {text : List Char} : field.form = .quoted quote → field.behind = [] →
      Inside quote text → Value (quote :: text)
  | dangling {quote : Char} {text : List Char} : field.form = .quoted quote → field.behind = [] →
      Inside quote text → Value (quote :: (text ++ ['\\']))
  | header {text : List Char} : field.form = .header →
      (∀ c, text.head? = some c → isQuote c = false ∧ isBlank c = false) → Value text
  | run {text : List Char} : field.form = .run → (∀ c ∈ text, isDelimiter c = false) →
      (∀ c, text.head? = some c → isQuote c = false) →
        (∀ c, (text ++ field.behind).head? = some c → isBlank c = false) → Value text

def line (value : List Char) : String := String.ofList (field.lead ++ (value ++ field.behind))

/-- No two values of the field make a difference, as long as the line is text. -/
def Hidden (parse : String → Option Json) (print : Json → String) : Prop :=
  ∀ value other, field.Value value → field.Value other →
    parse (field.line value) = none → parse (field.line other) = none →
      redactLogLine parse print (field.line value) = redactLogLine parse print (field.line other)

/-! ## Where the scanner stands -/

/-- What is put out before the value, and the mode the reader comes to it in. -/
def reached : List Char × Mode := through (.text none) field.lead

end Occurrence

/-- The part that is shown is full, with what comes behind it if need be. -/
def Filled (count : ℕ) (more : Prop) : Prop := 200 < count ∨ (count = 200 ∧ more)

/-- The value is left out, or nothing of it is shown. -/
def CoveredAt (parse : String → Option Json) (field : Occurrence) (count : ℕ) :
    Mode → Form → Prop
  | .separated _, _ => True
  | .header, _ => True
  | .run, .run => True
  | .run, _ => Filled count (∃ c ∈ field.behind, isDelimiter c = true)
  | .quoted opened _, .quoted quote =>
    if opened = quote then
      Filled count (field.behind ≠ [] ∨ (parse (field.line [quote])).isSome = true)
    else Filled count (skipQuoted opened field.behind ≠ [])
  | .quoted opened _, _ => Filled count (skipQuoted opened field.behind ≠ [])
  | _, .quoted quote =>
    Filled (count + 1) (field.behind ≠ [] ∨ (parse (field.line [quote])).isSome = true)
  | _, _ => Filled count (field.behind ≠ [] ∨ (parse (field.line [])).isSome = true)

def Covered (parse : String → Option Json) (field : Occurrence) : Prop :=
  CoveredAt parse field field.reached.1.length field.reached.2 field.form

/-! ## The modes along the field -/

section Modes

variable {mode : Mode} {name part : List Char}

/-- The modes between a name and its separator. -/
inductive Along (name : List Char) : Mode → Prop
  | name (before : Option Char) : Along name (.name before name)
  | gap (last : Char) : Along name (.gap (isHeader name) last)
  | text (before : Option Char) : Along name (.text before)
  | quoted {quote : Char} : isQuote quote = true → Along name (.quoted quote false)
  | header : Along name .header
  | run : Along name .run

/-- The modes before a value. -/
inductive AtValue (name : List Char) : Mode → Prop
  | separated : AtValue name (.separated (isHeader name))
  | text (before : Option Char) : AtValue name (.text before)
  | quoted {quote : Char} : isQuote quote = true → AtValue name (.quoted quote false)
  | header : AtValue name .header
  | run : AtValue name .run

/-- The modes behind a character that is in no name. -/
inductive Outside : Mode → Prop
  | text (before : Option Char) : Outside (.text before)
  | gap (flag : Bool) (last : Char) : Outside (.gap flag last)
  | separated (flag : Bool) : Outside (.separated flag)
  | quoted {quote : Char} (escaped : Bool) : isQuote quote = true → Outside (.quoted quote escaped)
  | header : Outside .header
  | run : Outside .run

theorem blank_other {c : Char} (blank : isBlank c = true) : isNameChar c = false := by
  refine delimiter_other ?_
  rw [isDelimiter, blank]
  rfl

theorem quote_cases {q : Char} (quote : isQuote q = true) : q = '"' ∨ q = '\'' := by
  simpa [isQuote] using quote

theorem separator_cases {c : Char} (separates : isSeparator c = true) : c = ':' ∨ c = '=' := by
  simpa [isSeparator] using separates

theorem name_char {c : Char} (letter : isNameChar c = true) :
    isBlank c = false ∧ isQuote c = false ∧ isSeparator c = false ∧ isDelimiter c = false ∧
      c ≠ '\\' := by
  refine ⟨?_, ?_, ?_, ?_, ?_⟩
  · cases blank : isBlank c with
    | false => rfl
    | true =>
      rw [blank_other blank] at letter
      cases letter
  · cases quote : isQuote c with
    | false => rfl
    | true =>
      rcases quote_cases quote with rfl | rfl
      · cases letter
      · cases letter
  · cases separates : isSeparator c with
    | false => rfl
    | true =>
      rcases separator_cases separates with rfl | rfl
      · cases letter
      · cases letter
  · cases delimits : isDelimiter c with
    | false => rfl
    | true =>
      rw [delimiter_other delimits] at letter
      cases letter
  · rintro rfl
    cases letter

/-- A quoted mode has a quote. -/
def Sound : Mode → Prop
  | .quoted quote _ => isQuote quote = true
  | _ => True

theorem advanceText_sound (before : Option Char) (c : Char) : Sound (advanceText before c).2 := by
  rw [advanceText]
  split
  · trivial
  · trivial

theorem advanceGap_sound (flag : Bool) (last c : Char) : Sound (advanceGap flag last c).2 := by
  rw [advanceGap]
  split
  · trivial
  · split
    · trivial
    · exact advanceText_sound (some last) c

theorem advance_sound (sound : Sound mode) (c : Char) : Sound (advance mode c).2 := by
  cases mode with
  | text before => exact advanceText_sound before c
  | name before letters =>
    rw [advance]
    split
    · trivial
    · split
      · split
        · trivial
        · exact advanceGap_sound (isHeader letters) c c
      · trivial
  | gap flag last => exact advanceGap_sound flag last c
  | separated flag =>
    rw [advance]
    split
    · trivial
    · split
      · next quote => exact quote
      · split
        · trivial
        · split
          · trivial
          · trivial
  | quoted quote escaped =>
    rw [advance]
    split
    · exact sound
    · split
      · exact sound
      · split
        · trivial
        · exact sound
  | header => trivial
  | run =>
    rw [advance]
    split
    · trivial
    · trivial

theorem through_sound (sound : Sound mode) : Sound (through mode part).2 := by
  induction part generalizing mode with
  | nil => exact sound
  | cons c rest hypothesis => exact hypothesis (advance_sound sound c)

theorem advanceText_outside {before : Option Char} {c : Char} (other : isNameChar c = false) :
    Outside (advanceText before c).2 := by
  rw [advanceText_other other]
  exact .text (some c)

theorem advanceGap_outside {flag : Bool} {last c : Char} (other : isNameChar c = false) :
    Outside (advanceGap flag last c).2 := by
  rw [advanceGap]
  split
  · exact .gap flag c
  · split
    · exact .separated flag
    · exact advanceText_outside other

/-- A character that is in no name ends the mode of a name. -/
theorem advance_outside {c : Char} (sound : Sound mode) (other : isNameChar c = false) :
    Outside (advance mode c).2 := by
  have kept := advance_sound sound c
  cases mode with
  | text before => exact advanceText_outside other
  | name before letters =>
    rw [advance, if_neg (ne_true_of_eq_false other)]
    split
    · split
      · exact .gap _ c
      · exact advanceGap_outside other
    · exact .text (some c)
  | gap flag last => exact advanceGap_outside other
  | separated flag =>
    rw [advance]
    split
    · exact .separated flag
    · split
      · next quote => exact .quoted false quote
      · split
        · exact .header
        · split
          · exact .text (some c)
          · exact .run
  | quoted quote escaped =>
    rw [advance]
    split
    · exact .quoted false sound
    · split
      · exact .quoted true sound
      · split
        · exact .text (some c)
        · exact .quoted false sound
  | header => exact .header
  | run =>
    rw [advance]
    split
    · exact .text (some c)
    · exact .run

theorem through_outside (ends : ∀ c, part.getLast? = some c → isNameChar c = false) :
    Outside (through (.text none) part).2 := by
  rcases List.eq_nil_or_concat part with rfl | ⟨front, c, rfl⟩
  · exact .text none
  · rw [List.concat_eq_append] at ends ⊢
    rw [through_append]
    exact advance_outside (through_sound trivial) (ends c List.getLast?_concat)

/-- A name within a quoted value is part of it. -/
theorem through_quoted_name {quote : Char} (quotes : isQuote quote = true)
    (letters : ∀ c ∈ part, isNameChar c = true) :
    (through (.quoted quote false) part).2 = .quoted quote false := by
  induction part with
  | nil => rfl
  | cons c rest hypothesis =>
    have facts := name_char (letters c List.mem_cons_self)
    have different : c ≠ quote := by
      rintro rfl
      exact Bool.noConfusion (quotes.symm.trans facts.2.1)
    rw [through, advance_quoted, if_neg facts.2.2.2.2, if_neg different]
    exact hypothesis fun d inside => letters d (List.mem_cons_of_mem _ inside)

theorem through_run_name (letters : ∀ c ∈ part, isNameChar c = true) :
    (through .run part).2 = .run := by
  induction part with
  | nil => rfl
  | cons c rest hypothesis =>
    have covered : advance .run c = ([], .run) :=
      if_neg (ne_true_of_eq_false (name_char (letters c List.mem_cons_self)).2.2.2.1)
    rw [through, covered]
    exact hypothesis fun d inside => letters d (List.mem_cons_of_mem _ inside)

theorem through_header (part : List Char) : (through .header part).2 = .header := by
  induction part with
  | nil => rfl
  | cons c rest hypothesis => exact hypothesis

/-- By the mode before the name. -/
theorem along_name {c : Char} {rest : List Char} (outside : Outside mode)
    (letters : ∀ d ∈ c :: rest, isNameChar d = true) :
    Along (c :: rest) (through mode (c :: rest)).2 := by
  have facts := name_char (letters c List.mem_cons_self)
  have others : ∀ d ∈ rest, isNameChar d = true := fun d inside =>
    letters d (List.mem_cons_of_mem _ inside)
  cases outside with
  | text before =>
    rw [through_text_name letters]
    exact .name before
  | gap flag last =>
    have stepped : advance (.gap flag last) c = ([c], .name (some last) [c]) := by
      rw [advance, advanceGap, if_neg (ne_true_of_eq_false facts.1),
        if_neg (ne_true_of_eq_false facts.2.2.1),
        advanceText_name (letters c List.mem_cons_self)]
    rw [through, stepped, through_name others]
    exact .name (some last)
  | separated flag =>
    have unquoted := ne_true_of_eq_false facts.2.1
    cases flag with
    | true =>
      have stepped : advance (.separated true) c = (mark, .header) := by
        rw [advance, if_neg (ne_true_of_eq_false facts.1), if_neg unquoted, if_pos rfl]
      rw [through, stepped, through_header]
      exact .header
    | false =>
      have stepped : advance (.separated false) c = (mark, .run) := by
        rw [advance, if_neg (ne_true_of_eq_false facts.1), if_neg unquoted,
          if_neg Bool.false_ne_true, if_neg (ne_true_of_eq_false facts.2.2.2.1)]
      rw [through, stepped, through_run_name others]
      exact .run
  | quoted escaped quotes =>
    cases escaped with
    | true =>
      have stepped (quote : Char) : advance (.quoted quote true) c = ([], .quoted quote false) :=
        rfl
      rw [through, stepped, through_quoted_name quotes others]
      exact .quoted quotes
    | false =>
      rw [through_quoted_name quotes letters]
      exact .quoted quotes
  | header =>
    rw [through_header]
    exact .header
  | run =>
    rw [through_run_name letters]
    exact .run

/-- Behind the name only the same quote as before it closes it. -/
theorem along_quote {quote : Char} (quotes : isQuote quote = true) (secret : sensitive name = true)
    (along : Along name mode) : Along name (advance mode quote).2 := by
  have other : isNameChar quote = false := by
    rcases quote_cases quotes with rfl | rfl
    · rfl
    · rfl
  have apart : isBlank quote = false ∧ isSeparator quote = false ∧ isDelimiter quote = false ∧
      quote ≠ '\\' := by
    rcases quote_cases quotes with rfl | rfl
    · decide
    · decide
  have gapped (flag : Bool) (last : Char) :
      (advanceGap flag last quote).2 = .text (some quote) := by
    rw [advanceGap, if_neg (ne_true_of_eq_false apart.1),
      if_neg (ne_true_of_eq_false apart.2.1), advanceText_other other]
  cases along with
  | name before =>
    rw [advance, if_neg (ne_true_of_eq_false other), if_pos secret]
    split
    · exact .gap quote
    · rw [gapped]
      exact .text (some quote)
  | gap last =>
    rw [advance, gapped]
    exact .text (some quote)
  | text before =>
    rw [advance, advanceText_other other]
    exact .text (some quote)
  | @quoted opened opens =>
    rw [advance_quoted, if_neg apart.2.2.2]
    split
    · exact .text (some quote)
    · exact .quoted opens
  | header => exact .header
  | run =>
    rw [advance, if_neg (ne_true_of_eq_false apart.2.2.1)]
    exact .run

theorem along_blank {c : Char} (blank : isBlank c = true) (secret : sensitive name = true)
    (along : Along name mode) : Along name (advance mode c).2 := by
  have other := blank_other blank
  have delimits : isDelimiter c = true := by
    rw [isDelimiter, blank]
    rfl
  have gapped (flag : Bool) (last : Char) : (advanceGap flag last c).2 = .gap flag c := by
    rw [advanceGap, if_pos blank]
  cases along with
  | name before =>
    rw [advance, if_neg (ne_true_of_eq_false other), if_pos secret]
    split
    · exact .gap c
    · rw [gapped]
      exact .gap c
  | gap last =>
    rw [advance, gapped]
    exact .gap c
  | text before =>
    rw [advance, advanceText_other other]
    exact .text (some c)
  | @quoted opened opens =>
    have apart : c ≠ '\\' := by
      rintro rfl
      cases blank
    rw [advance_quoted, if_neg apart]
    split
    · exact .text (some c)
    · exact .quoted opens
  | header => exact .header
  | run =>
    rw [advance, if_pos delimits]
    exact .text (some c)

theorem along_blanks (blank : part.all isBlank = true) (secret : sensitive name = true)
    (along : Along name mode) : Along name (through mode part).2 := by
  induction part generalizing mode with
  | nil => exact along
  | cons c rest hypothesis =>
    rw [List.all_cons, Bool.and_eq_true] at blank
    exact hypothesis blank.2 (along_blank blank.1 secret along)

theorem atValue_separator {c : Char} (separates : isSeparator c = true)
    (secret : sensitive name = true) (along : Along name mode) :
    AtValue name (advance mode c).2 := by
  have apart : isNameChar c = false ∧ isBlank c = false ∧ isQuote c = false ∧
      isDelimiter c = false ∧ c ≠ '\\' := by
    rcases separator_cases separates with rfl | rfl
    · decide
    · decide
  have gapped (flag : Bool) (last : Char) : (advanceGap flag last c).2 = .separated flag := by
    rw [advanceGap, if_neg (ne_true_of_eq_false apart.2.1), if_pos separates]
  cases along with
  | name before =>
    have unclosed : ¬(before = some c && isQuote c) = true := by
      rw [apart.2.2.1, Bool.and_false]
      exact Bool.false_ne_true
    rw [advance, if_neg (ne_true_of_eq_false apart.1), if_pos secret, if_neg unclosed, gapped]
    exact .separated
  | gap last =>
    rw [advance, gapped]
    exact .separated
  | text before =>
    rw [advance, advanceText_other apart.1]
    exact .text (some c)
  | @quoted opened opens =>
    rw [advance_quoted, if_neg apart.2.2.2.2]
    split
    · exact .text (some c)
    · exact .quoted opens
  | header => exact .header
  | run =>
    rw [advance, if_neg (ne_true_of_eq_false apart.2.2.2.1)]
    exact .run

theorem atValue_blanks (blank : part.all isBlank = true) (reached : AtValue name mode) :
    AtValue name (through mode part).2 := by
  induction part generalizing mode with
  | nil => exact reached
  | cons c rest hypothesis =>
    rw [List.all_cons, Bool.and_eq_true] at blank
    refine hypothesis blank.2 ?_
    cases reached with
    | separated =>
      rw [advance, if_pos blank.1]
      exact .separated
    | text before =>
      rw [advance, advanceText_other (blank_other blank.1)]
      exact .text (some c)
    | @quoted opened opens =>
      have apart : c ≠ '\\' := by
        rintro rfl
        cases blank.1
      rw [advance_quoted, if_neg apart]
      split
      · exact .text (some c)
      · exact .quoted opens
    | header => exact .header
    | run =>
      have delimits : isDelimiter c = true := by
        rw [isDelimiter, blank.1]
        rfl
      rw [advance, if_pos delimits]
      exact .text (some c)

end Modes

/-- A value is come to behind its own separator, within an earlier value, or in plain text. -/
theorem reached_atValue (field : Occurrence) : AtValue field.name field.reached.2 := by
  have nonempty : field.name ≠ [] := by
    intro none
    have secret := field.secret
    rw [none] at secret
    cases secret
  obtain ⟨c, rest, isName⟩ := List.exists_cons_of_ne_nil nonempty
  have letters : ∀ d ∈ c :: rest, isNameChar d = true := by
    rw [← isName]
    exact List.all_eq_true.mp field.letters
  have named := along_name (through_outside field.starts) letters
  rw [← isName] at named
  have closed : Along field.name (through
      (through (through (.text none) field.before).2 field.name).2 field.closing).2 := by
    rcases field.closes with none | ⟨quote, quotes, same⟩
    · rw [none]
      exact named
    · rw [same]
      exact along_quote quotes field.secret named
  have valued := atValue_separator field.separates field.secret
    (along_blanks field.spaced field.secret closed)
  rw [Occurrence.reached, Occurrence.lead, through_append, through_append, through_append,
    through_append, through]
  exact atValue_blanks field.blank valued

/-! ## Values that are left out -/

section Covering

variable {field : Occurrence} {parse : String → Option Json} {print : Json → String}
  {value text : List Char} {q : Char}

theorem skipQuoted_cons (q c : Char) (text : List Char) : skipQuoted q (c :: text) =
    if c = '\\' then skipQuoted q text.tail else if c = q then text else skipQuoted q text := by
  cases text with
  | nil =>
    rw [skipQuoted]
    split
    · rfl
    · split
      · rfl
      · rfl
  | cons d rest => rfl

theorem skipQuoted_closed (quotes : isQuote q = true) (inside : Inside q text)
    (rest : List Char) : skipQuoted q (text ++ q :: rest) = rest := by
  have apart : q ≠ '\\' := by
    rintro rfl
    cases quotes
  induction inside with
  | nil => rw [List.nil_append, skipQuoted_cons, if_neg apart, if_pos rfl]
  | plain different other _ hypothesis =>
    rw [List.cons_append, skipQuoted_cons, if_neg other, if_neg different, hypothesis]
  | escape _ hypothesis =>
    rw [List.cons_append, List.cons_append, skipQuoted_cons, if_pos rfl, List.tail_cons, hypothesis]

theorem skipQuoted_unclosed (inside : Inside q text) : skipQuoted q text = [] := by
  induction inside with
  | nil => rfl
  | plain different other _ hypothesis =>
    rw [skipQuoted_cons, if_neg other, if_neg different, hypothesis]
  | escape _ hypothesis => rw [skipQuoted_cons, if_pos rfl, List.tail_cons, hypothesis]

theorem skipQuoted_dangling (inside : Inside q text) : skipQuoted q (text ++ ['\\']) = [] := by
  induction inside with
  | nil => rfl
  | plain different other _ hypothesis =>
    rw [List.cons_append, skipQuoted_cons, if_neg other, if_neg different, hypothesis]
  | escape _ hypothesis =>
    rw [List.cons_append, List.cons_append, skipQuoted_cons, if_pos rfl, List.tail_cons, hypothesis]

theorem readFrom_covered (plain : ∀ c ∈ value, isDelimiter c = false) (rest : List Char) :
    readFrom .run (value ++ rest) = readFrom .run rest := by
  induction value with
  | nil => rfl
  | cons c value hypothesis =>
    have covered : advance .run c = ([], .run) :=
      if_neg (ne_true_of_eq_false (plain c List.mem_cons_self))
    rw [List.cons_append, readFrom, covered,
      hypothesis fun d inside => plain d (List.mem_cons_of_mem _ inside)]
    rfl

/-- What is read of a field behind its value. -/
def restRead (field : Occurrence) : List Char :=
  match field.form with
  | .quoted quote => readFrom (.text (some quote)) field.behind
  | .header => []
  | .run => readFrom (.text none) field.behind

theorem separated_quoted (flag : Bool) (quotes : isQuote q = true) (text : List Char) :
    readFrom (.separated flag) (q :: text) =
      mark ++ readFrom (.text (some q)) (skipQuoted q text) := by
  have blank : isBlank q = false := by
    rcases quote_cases quotes with rfl | rfl
    · rfl
    · rfl
  have opened : advance (.separated flag) q = (mark, .quoted q false) := by
    rw [advance, if_neg (ne_true_of_eq_false blank), if_pos quotes]
  rw [readFrom, opened, readFrom_quoted]

theorem separated_header
    (start : ∀ c, value.head? = some c → isQuote c = false ∧ isBlank c = false) :
    readFrom (.separated true) value = mark := by
  cases value with
  | nil => rfl
  | cons c rest =>
    have facts := start c rfl
    have opened : advance (.separated true) c = (mark, .header) := by
      rw [advance, if_neg (ne_true_of_eq_false facts.2), if_neg (ne_true_of_eq_false facts.1),
        if_pos rfl]
    rw [readFrom, opened, readFrom_header, List.append_nil]

/-- What is read behind a value that is not quoted. -/
theorem readFrom_behind (ends : ∀ c, text.head? = some c → isDelimiter c = true) :
    readFrom .run text = readFrom (.text none) text := by
  cases text with
  | nil => rfl
  | cons c rest =>
    have delimits := ends c rfl
    have stopped : advance .run c = ([c], .text (some c)) := if_pos delimits
    have plain : advance (.text none) c = ([c], .text (some c)) :=
      advanceText_other (delimiter_other delimits)
    rw [readFrom, readFrom, stopped, plain]

theorem delimiter_unquoted {c : Char} (delimits : isDelimiter c = true) : isQuote c = false := by
  cases quotes : isQuote c with
  | false => rfl
  | true =>
    rcases quote_cases quotes with rfl | rfl
    · cases delimits
    · cases delimits

theorem separated_run (plain : ∀ c ∈ value, isDelimiter c = false)
    (start : ∀ c, value.head? = some c → isQuote c = false)
    (first : ∀ c, (value ++ text).head? = some c → isBlank c = false)
    (ends : ∀ c, text.head? = some c → isDelimiter c = true) :
    readFrom (.separated false) (value ++ text) = mark ++ readFrom (.text none) text := by
  cases value with
  | cons c rest =>
    have blank := first c rfl
    have opened : advance (.separated false) c = (mark, .run) := by
      rw [advance, if_neg (ne_true_of_eq_false blank),
        if_neg (ne_true_of_eq_false (start c rfl)), if_neg Bool.false_ne_true,
        if_neg (ne_true_of_eq_false (plain c List.mem_cons_self))]
    rw [List.cons_append, readFrom, opened,
      readFrom_covered fun d inside => plain d (List.mem_cons_of_mem _ inside),
      readFrom_behind ends]
  | nil =>
    cases text with
    | nil => rfl
    | cons c rest =>
      have delimits := ends c rfl
      have opened : advance (.separated false) c = (mark ++ [c], .text (some c)) := by
        rw [advance, if_neg (ne_true_of_eq_false (first c rfl)),
          if_neg (ne_true_of_eq_false (delimiter_unquoted delimits)), if_neg Bool.false_ne_true,
          if_pos delimits]
      have plain : advance (.text none) c = ([c], .text (some c)) :=
        advanceText_other (delimiter_other delimits)
      rw [List.nil_append, readFrom, readFrom, opened, plain, List.append_assoc]

/-- Behind its own separator a value is left out whole, whatever it is. -/
theorem separated_value (valued : field.Value value) :
    readFrom (.separated (isHeader field.name)) (value ++ field.behind) =
      mark ++ restRead field := by
  cases valued with
  | @closed quote text quoted inside =>
    have quotes := field.quotes quote quoted
    have parts : quote :: (text ++ [quote]) ++ field.behind =
        quote :: (text ++ quote :: field.behind) := by
      rw [List.cons_append, List.append_assoc]
      rfl
    rw [parts, separated_quoted _ quotes, skipQuoted_closed quotes inside, restRead, quoted]
  | @unclosed quote text quoted last inside =>
    rw [last, List.append_nil, separated_quoted _ (field.quotes quote quoted),
      skipQuoted_unclosed inside, restRead, quoted, last]
  | @dangling quote text quoted last inside =>
    rw [last, List.append_nil, separated_quoted _ (field.quotes quote quoted),
      skipQuoted_dangling inside, restRead, quoted, last]
  | header headed start =>
    have facts := field.rest headed
    rw [facts.2, List.append_nil, facts.1, separated_header start, restRead, headed,
      List.append_nil]
  | run running plain start first =>
    have facts := field.ends running
    rw [facts.1, separated_run plain start first facts.2, restRead, running]

/-! ## Values that nothing is shown of -/

theorem readFrom_text_nonempty (before : Option Char) (nonempty : text ≠ []) :
    readFrom (.text before) text ≠ [] := by
  obtain ⟨c, rest, rfl⟩ := List.exists_cons_of_ne_nil nonempty
  rw [readFrom, advance, advanceText]
  split
  · exact List.cons_ne_nil _ _
  · exact List.cons_ne_nil _ _

theorem readFrom_run_nonempty (delimits : ∃ c ∈ text, isDelimiter c = true) :
    readFrom .run text ≠ [] := by
  obtain ⟨c, inside, delimits⟩ := delimits
  rw [readFrom_run none]
  refine readFrom_text_nonempty none fun none_left => ?_
  have all := List.dropWhile_eq_nil_iff.mp none_left c inside
  rw [delimits] at all
  cases all

/-- What closes a quoted value behind a part of a text does so behind any other part, unless that
closes it before. -/
theorem skipQuoted_reaches {d : Char} (part text : List Char) (other : d ≠ '\\')
    (different : d ≠ q) (closes : skipQuoted q text ≠ []) :
    skipQuoted q (part ++ d :: text) ≠ [] := by
  have whole : skipQuoted q (d :: text) = skipQuoted q text := by
    rw [skipQuoted_cons, if_neg other, if_neg different]
  induction part using skipQuoted.induct q with
  | case1 =>
    rw [List.nil_append, whole]
    exact closes
  | case2 c =>
    rw [List.singleton_append, skipQuoted_cons]
    split
    · exact closes
    · split
      · exact List.cons_ne_nil _ _
      · rw [whole]
        exact closes
  | case3 e rest hypothesis =>
    rw [List.cons_append, skipQuoted_cons, if_pos rfl]
    exact hypothesis
  | case4 e rest backslash =>
    rw [List.cons_append, skipQuoted_cons, if_neg backslash, if_pos rfl]
    exact List.cons_ne_nil _ _
  | case5 c e rest backslash apart hypothesis =>
    rw [List.cons_append, skipQuoted_cons, if_neg backslash, if_neg apart]
    exact hypothesis

end Covering

/-! ## A covered value is hidden -/

section Hiding

variable {field : Occurrence} {parse : String → Option Json} {print : Json → String}
  {value text : List Char} {q : Char}

/-- What the scanner makes of the line with a value. -/
def Occurrence.read (field : Occurrence) (value : List Char) : List Char :=
  field.reached.1 ++ readFrom field.reached.2 (value ++ field.behind)

theorem line_read (untold : parse (field.line value) = none) :
    redactLogLine parse print (field.line value) = sanitize (String.ofList (field.read value)) := by
  have scanned : redactText (field.line value).toList = field.read value := by
    rw [Occurrence.line, String.toList_ofList, redactText_read, readFrom_append]
    rfl
  rw [redactLogLine, untold, ← scanned]

theorem hidden_iff : field.Hidden parse print ↔
    ∀ value other, field.Value value → field.Value other → parse (field.line value) = none →
      parse (field.line other) = none → shown (field.read value) = shown (field.read other) := by
  constructor
  · intro hidden value other valued others text text_too
    have same := hidden value other valued others text text_too
    rw [line_read text, line_read text_too] at same
    exact sanitize_same.mp same
  · intro alike value other valued others text text_too
    rw [line_read text, line_read text_too]
    exact sanitize_same.mpr (alike value other valued others text text_too)

/-- A quoted value that is its quote alone ends the line. -/
theorem quoted_value (quoted : field.form = .quoted q) (valued : field.Value value) :
    ∃ text, value = q :: text ∧ (text = [] → field.behind = []) := by
  cases valued with
  | @closed quote text form _ =>
    rw [quoted] at form
    cases form
    exact ⟨text ++ [q], rfl, fun none => absurd (List.append_eq_nil_iff.mp none).2
      (List.cons_ne_nil _ _)⟩
  | @unclosed quote text form last _ =>
    rw [quoted] at form
    cases form
    exact ⟨text, rfl, fun _ => last⟩
  | @dangling quote text form last _ =>
    rw [quoted] at form
    cases form
    exact ⟨text ++ ['\\'], rfl, fun _ => last⟩
  | header form _ =>
    rw [quoted] at form
    cases form
  | run form _ _ _ =>
    rw [quoted] at form
    cases form

theorem run_plain (form : field.form = .run) (valued : field.Value value) :
    ∀ c ∈ value, isDelimiter c = false := by
  cases valued with
  | run _ plain _ _ => exact plain
  | closed quoted _ =>
    rw [form] at quoted
    cases quoted
  | unclosed quoted _ _ =>
    rw [form] at quoted
    cases quoted
  | dangling quoted _ _ =>
    rw [form] at quoted
    cases quoted
  | header headed _ =>
    rw [form] at headed
    cases headed

/-- Something follows the quote of a text line, where the line with the quote alone is no text. -/
theorem behind_quote (quoted : field.form = .quoted q) (valued : field.Value value)
    (untold : parse (field.line value) = none)
    (more : field.behind ≠ [] ∨ (parse (field.line [q])).isSome = true) :
    ∃ text, value = q :: text ∧ text ++ field.behind ≠ [] := by
  obtain ⟨text, rfl, alone⟩ := quoted_value quoted valued
  refine ⟨text, rfl, fun none => ?_⟩
  have parts := List.append_eq_nil_iff.mp none
  rcases more with behind | told
  · exact behind parts.2
  · rw [parts.1] at untold
    rw [untold] at told
    cases told

theorem quote_other (quotes : isQuote q = true) : isNameChar q = false := by
  rcases quote_cases quotes with rfl | rfl
  · rfl
  · rfl

theorem quote_plain (quotes : isQuote q = true) : q ≠ '\\' := by
  rintro rfl
  cases quotes

/-- Within an earlier quoted value, whatever the value is, what the quote closes is shown. -/
theorem quoted_reaches {opened : Char} (opens : isQuote opened = true)
    (different : field.form ≠ .quoted opened) (valued : field.Value value)
    (closes : skipQuoted opened field.behind ≠ []) :
    readFrom (.quoted opened false) (value ++ field.behind) ≠ [] := by
  have nothing : skipQuoted opened [] = [] := rfl
  rw [readFrom_quoted]
  refine readFrom_text_nonempty _ ?_
  cases valued with
  | @closed quote text form _ =>
    have apart : quote ≠ opened := by
      rintro rfl
      exact different form
    have parts : quote :: (text ++ [quote]) ++ field.behind =
        (quote :: text) ++ quote :: field.behind := by
      rw [List.cons_append, List.append_assoc]
      rfl
    rw [parts]
    exact skipQuoted_reaches _ _ (quote_plain (field.quotes quote form)) apart closes
  | unclosed _ last _ =>
    rw [last] at closes
    exact absurd nothing closes
  | dangling _ last _ =>
    rw [last] at closes
    exact absurd nothing closes
  | header form _ =>
    rw [(field.rest form).2] at closes
    exact absurd nothing closes
  | run form _ _ _ =>
    cases behind : field.behind with
    | nil =>
      rw [behind] at closes
      exact absurd nothing closes
    | cons d rest =>
      have delimits : isDelimiter d = true :=
        (field.ends form).2 d (by rw [behind]; rfl)
      have apart : d ≠ opened := by
        rintro rfl
        have unquoted := delimiter_unquoted delimits
        rw [opens] at unquoted
        cases unquoted
      have other : d ≠ '\\' := by
        rintro rfl
        cases delimits
      rw [behind, skipQuoted_cons, if_neg other, if_neg apart] at closes
      exact skipQuoted_reaches _ _ other apart closes

theorem filled_shown {front a b : List Char} {more : Prop} (filled : Filled front.length more)
    (first : more → a ≠ []) (second : more → b ≠ []) : shown (front ++ a) = shown (front ++ b) :=
  shown_full (filled.imp id fun exact => ⟨exact.1, first exact.2, second exact.2⟩)

section Modes

variable {other front : List Char} (valued : field.Value value) (others : field.Value other)
  (untold : parse (field.line value) = none) (untold' : parse (field.line other) = none)

include valued others

theorem run_shown (covered : CoveredAt parse field front.length .run field.form) :
    shown (front ++ readFrom .run (value ++ field.behind)) =
      shown (front ++ readFrom .run (other ++ field.behind)) := by
  have longer (v : List Char) (more : ∃ c ∈ field.behind, isDelimiter c = true) :
      readFrom .run (v ++ field.behind) ≠ [] := by
    obtain ⟨c, inside, delimits⟩ := more
    exact readFrom_run_nonempty ⟨c, List.mem_append_right v inside, delimits⟩
  cases form : field.form with
  | quoted quote =>
    rw [form] at covered
    exact filled_shown covered (longer value) (longer other)
  | header =>
    rw [form] at covered
    exact filled_shown covered (longer value) (longer other)
  | run => rw [readFrom_covered (run_plain form valued), readFrom_covered (run_plain form others)]

include untold untold'

theorem quoted_shown {opened : Char} (opens : isQuote opened = true)
    (covered : CoveredAt parse field front.length (.quoted opened false) field.form) :
    shown (front ++ readFrom (.quoted opened false) (value ++ field.behind)) =
      shown (front ++ readFrom (.quoted opened false) (other ++ field.behind)) := by
  by_cases matched : field.form = .quoted opened
  · rw [matched] at covered
    have filled : Filled front.length
        (field.behind ≠ [] ∨ (parse (field.line [opened])).isSome = true) :=
      (if_pos rfl).mp covered
    have longer (v : List Char) (valued : field.Value v) (untold : parse (field.line v) = none)
        (more : field.behind ≠ [] ∨ (parse (field.line [opened])).isSome = true) :
        readFrom (.quoted opened false) (v ++ field.behind) ≠ [] := by
      obtain ⟨text, rfl, nonempty⟩ := behind_quote matched valued untold more
      rw [readFrom_quoted, List.cons_append, skipQuoted_cons, if_neg (quote_plain opens),
        if_pos rfl]
      exact readFrom_text_nonempty _ nonempty
    exact filled_shown filled (longer value valued untold) (longer other others untold')
  · have filled : Filled front.length (skipQuoted opened field.behind ≠ []) := by
      cases form : field.form with
      | quoted quote =>
        rw [form] at covered matched
        have apart : opened ≠ quote := by
          rintro rfl
          exact matched rfl
        exact (if_neg apart).mp covered
      | header =>
        rw [form] at covered
        exact covered
      | run =>
        rw [form] at covered
        exact covered
    exact filled_shown filled (quoted_reaches opens matched valued)
      (quoted_reaches opens matched others)

theorem text_shown {before : Option Char}
    (covered : CoveredAt parse field front.length (.text before) field.form) :
    shown (front ++ readFrom (.text before) (value ++ field.behind)) =
      shown (front ++ readFrom (.text before) (other ++ field.behind)) := by
  have longer (v : List Char) (untold : parse (field.line v) = none)
      (more : field.behind ≠ [] ∨ (parse (field.line [])).isSome = true) :
      readFrom (.text before) (v ++ field.behind) ≠ [] := by
    refine readFrom_text_nonempty before fun none => ?_
    have parts := List.append_eq_nil_iff.mp none
    rcases more with behind | told
    · exact behind parts.2
    · rw [parts.1] at untold
      rw [untold] at told
      cases told
  cases form : field.form with
  | quoted quote =>
    rw [form] at covered
    have stepped (rest : List Char) : front ++ readFrom (.text before) (quote :: rest) =
        front ++ [quote] ++ readFrom (.text (some quote)) rest := by
      rw [readFrom, advance, advanceText_other (quote_other (field.quotes quote form)),
        List.append_assoc]
    have filled : Filled (front ++ [quote]).length
        (field.behind ≠ [] ∨ (parse (field.line [quote])).isSome = true) := by
      rw [List.length_append]
      exact covered
    have longer_quoted (v : List Char) (valued : field.Value (quote :: v))
        (untold : parse (field.line (quote :: v)) = none)
        (more : field.behind ≠ [] ∨ (parse (field.line [quote])).isSome = true) :
        readFrom (.text (some quote)) (v ++ field.behind) ≠ [] := by
      obtain ⟨rest, same, nonempty⟩ := behind_quote form valued untold more
      rw [(List.cons.inj same).2]
      exact readFrom_text_nonempty _ nonempty
    obtain ⟨text, rfl, _⟩ := quoted_value form valued
    obtain ⟨text', rfl, _⟩ := quoted_value form others
    rw [List.cons_append, List.cons_append, stepped, stepped]
    exact filled_shown filled (longer_quoted text valued untold)
      (longer_quoted text' others untold')
  | header =>
    rw [form] at covered
    exact filled_shown covered (longer value untold) (longer other untold')
  | run =>
    rw [form] at covered
    exact filled_shown covered (longer value untold) (longer other untold')

end Modes

/-- By the mode before the value. -/
theorem covered_hidden (covered : Covered parse field) : field.Hidden parse print := by
  rw [hidden_iff]
  intro value other valued others untold untold'
  have at_value := reached_atValue field
  rw [Covered] at covered
  rw [Occurrence.read, Occurrence.read]
  obtain ⟨mode, same⟩ : ∃ mode, mode = field.reached.2 := ⟨_, rfl⟩
  rw [← same] at at_value covered ⊢
  cases at_value with
  | separated => rw [separated_value valued, separated_value others]
  | header => rw [readFrom_header, readFrom_header]
  | run => exact run_shown valued others covered
  | quoted opens => exact quoted_shown valued others untold untold' opens covered
  | text before => exact text_shown valued others untold untold' covered

end Hiding

/-! ## A hidden value is covered -/

section Telling

variable {field : Occurrence} {parse : String → Option Json} {print : Json → String}
  {front rest text : List Char} {more : Prop} {q c x : Char}

theorem text_reads (before : Option Char) (c : Char) (rest : List Char) :
    ∃ left, readFrom (.text before) (c :: rest) = c :: left := by
  rw [readFrom, advance, advanceText]
  split
  · exact ⟨_, rfl⟩
  · exact ⟨_, rfl⟩

theorem quoted_passes (different : c ≠ q) (other : c ≠ '\\') :
    readFrom (.quoted q false) (c :: rest) = readFrom (.quoted q false) rest := by
  rw [readFrom, advance_quoted, if_neg other, if_neg different]
  rfl

theorem quoted_closes (quotes : isQuote q = true) (x : Char) (rest : List Char) :
    ∃ left, readFrom (.quoted q false) (q :: x :: rest) = x :: left := by
  rw [readFrom_quoted, skipQuoted_cons, if_neg (quote_plain quotes), if_pos rfl]
  exact text_reads _ x rest

theorem run_passes (covered : isDelimiter c = false) :
    readFrom .run (c :: rest) = readFrom .run rest := by
  rw [readFrom, advance, if_neg (ne_true_of_eq_false covered)]
  rfl

theorem run_stops (delimits : isDelimiter c = true) (rest : List Char) :
    ∃ left, readFrom .run (c :: rest) = c :: left := by
  rw [readFrom, advance, if_pos delimits]
  exact ⟨_, rfl⟩

theorem quote_apart (quotes : isQuote q = true) (plain : isQuote c = false) : c ≠ q := by
  rintro rfl
  exact Bool.noConfusion (quotes.symm.trans plain)

theorem quote_covered (quotes : isQuote q = true) : isDelimiter q = false := by
  cases delimits : isDelimiter q with
  | false => rfl
  | true => exact Bool.noConfusion (quotes.symm.trans (delimiter_unquoted delimits))

theorem inside_plain (quotes : isQuote q = true)
    (plain : text.all (fun c => !isQuote c && c != '\\') = true) : Inside q text := by
  induction text with
  | nil => exact .nil
  | cons c rest hypothesis =>
    rw [List.all_cons, Bool.and_eq_true, Bool.and_eq_true] at plain
    obtain ⟨⟨unquoted, other⟩, others⟩ := plain
    have unquoted : isQuote c = false := by simpa using unquoted
    exact .plain (quote_apart quotes unquoted) (by simpa using other) (hypothesis others)

/-- What two values tell apart is not shown, and no value ends where what is shown does. -/
theorem filled_forced
    (alike : ∃ x y a b, plainChar x ≠ plainChar y ∧
      shown (front ++ x :: a) = shown (front ++ y :: b))
    (ending : ¬more → ∃ c a, shown front = shown (front ++ c :: a)) :
    Filled front.length more := by
  obtain ⟨x, y, a, b, different, same⟩ := alike
  by_cases short : front.length < 200
  · exact absurd (shown_char short same) different
  · by_cases exact_length : front.length = 200
    · refine .inr ⟨exact_length, ?_⟩
      by_contra none
      obtain ⟨c, a, ends⟩ := ending none
      refine shown_longer exact_length ?_ ends
      rw [List.length_append, List.length_cons]
      omega
    · exact .inl (by omega)

section Modes

variable (rejects : ∀ line : String, '\x01' ∈ line.toList → parse line = none)

include rejects

theorem noise_text {value : List Char} (noise : '\x01' ∈ value) :
    parse (field.line value) = none := by
  apply rejects
  rw [Occurrence.line, String.toList_ofList]
  exact List.mem_append_right _ (List.mem_append_left _ noise)

theorem alike_ends {mode : Mode}
    (alike : ∀ value other, field.Value value → field.Value other →
      parse (field.line value) = none → parse (field.line other) = none →
        shown (front ++ readFrom mode (value ++ field.behind)) =
          shown (front ++ readFrom mode (other ++ field.behind)))
    {value other : List Char} (valued : field.Value value) (others : field.Value other)
    (untold : parse (field.line value) = none) (noise : '\x01' ∈ other)
    (ends : readFrom mode (value ++ field.behind) = [])
    (more : ∃ c a, readFrom mode (other ++ field.behind) = c :: a) :
    ∃ c a, shown front = shown (front ++ c :: a) := by
  obtain ⟨c, a, reads⟩ := more
  have same := alike value other valued others untold (noise_text rejects noise)
  rw [ends, reads, List.append_nil] at same
  exact ⟨c, a, same⟩

theorem alike_tells {mode : Mode}
    (alike : ∀ value other, field.Value value → field.Value other →
      parse (field.line value) = none → parse (field.line other) = none →
        shown (front ++ readFrom mode (value ++ field.behind)) =
          shown (front ++ readFrom mode (other ++ field.behind)))
    {value other : List Char} {x y : Char} (valued : field.Value value)
    (others : field.Value other) (noise : '\x01' ∈ value) (noise' : '\x01' ∈ other)
    (different : plainChar x ≠ plainChar y)
    (first : ∃ a, readFrom mode (value ++ field.behind) = x :: a)
    (second : ∃ b, readFrom mode (other ++ field.behind) = y :: b) :
    ∃ x y a b, plainChar x ≠ plainChar y ∧ shown (front ++ x :: a) = shown (front ++ y :: b) := by
  obtain ⟨a, first⟩ := first
  obtain ⟨b, second⟩ := second
  have same := alike value other valued others (noise_text rejects noise)
    (noise_text rejects noise')
  rw [first, second] at same
  exact ⟨x, y, a, b, different, same⟩

theorem run_forced
    (alike : ∀ value other, field.Value value → field.Value other →
      parse (field.line value) = none → parse (field.line other) = none →
        shown (front ++ readFrom .run (value ++ field.behind)) =
          shown (front ++ readFrom .run (other ++ field.behind))) :
    CoveredAt parse field front.length .run field.form := by
  cases form : field.form with
  | run => trivial
  | quoted quote =>
    have quotes := field.quotes quote form
    have covered := quote_covered quotes
    have valued (text : List Char) (plain : text.all (fun c => !isQuote c && c != '\\') = true) :
        field.Value (quote :: (text ++ [quote])) := .closed form (inside_plain quotes plain)
    have reads (c : Char) (delimits : isDelimiter c = true) :
        ∃ left, readFrom .run (quote :: ([c, '\x01'] ++ [quote]) ++ field.behind) = c :: left := by
      rw [List.cons_append, run_passes covered]
      exact run_stops delimits _
    have comma := valued [',', '\x01'] (by decide)
    refine filled_forced (alike_tells rejects alike comma (valued [';', '\x01'] (by decide))
      (by simp) (by simp) (by decide) (reads ',' (by decide)) (reads ';' (by decide))) ?_
    intro none
    refine alike_ends rejects alike (valued ['\x01'] (by decide)) comma
      (noise_text rejects (by simp)) (by simp) ?_ ⟨',', reads ',' (by decide)⟩
    have all : ∀ c ∈ field.behind, isDelimiter c = false := by
      intro c inside
      cases delimits : isDelimiter c with
      | false => rfl
      | true => exact absurd ⟨c, inside, delimits⟩ none
    rw [← List.append_nil field.behind, List.cons_append, run_passes covered, List.append_assoc,
      List.singleton_append, run_passes (by decide), List.singleton_append, run_passes covered,
      readFrom_covered all]
    rfl
  | header =>
    have last := (field.rest form).2
    have reads (c : Char) (delimits : isDelimiter c = true) :
        ∃ left, readFrom .run ([c, '\x01'] ++ field.behind) = c :: left :=
      run_stops delimits _
    have comma : field.Value [',', '\x01'] := .header form (by simp; decide)
    have semicolon : field.Value [';', '\x01'] := .header form (by simp; decide)
    have noise : field.Value ['\x01'] := .header form (by simp; decide)
    refine filled_forced (alike_tells rejects alike comma semicolon (by simp) (by simp) (by decide)
      (reads ',' (by decide)) (reads ';' (by decide))) ?_
    intro none
    refine alike_ends rejects alike noise comma (noise_text rejects (by simp)) (by simp) ?_
      ⟨',', reads ',' (by decide)⟩
    rw [last]
    rfl

/-- A field that stands within a quoted value, with the same quote. -/
theorem matched_forced {quote : Char} (form : field.form = .quoted quote)
    (alike : ∀ value other, field.Value value → field.Value other →
      parse (field.line value) = none → parse (field.line other) = none →
        shown (front ++ readFrom (.quoted quote false) (value ++ field.behind)) =
          shown (front ++ readFrom (.quoted quote false) (other ++ field.behind))) :
    Filled front.length (field.behind ≠ [] ∨ (parse (field.line [quote])).isSome = true) := by
  have quotes := field.quotes quote form
  have valued (text : List Char) (plain : text.all (fun c => !isQuote c && c != '\\') = true) :
      field.Value (quote :: (text ++ [quote])) := .closed form (inside_plain quotes plain)
  have reads (c : Char) : ∃ left, readFrom (.quoted quote false)
      (quote :: ([c, '\x01'] ++ [quote]) ++ field.behind) = c :: left :=
    quoted_closes quotes c _
  have first := valued ['a', '\x01'] (by decide)
  refine filled_forced (alike_tells rejects alike first (valued ['b', '\x01'] (by decide))
    (by simp) (by simp) (by decide) (reads 'a') (reads 'b')) ?_
  intro none
  obtain ⟨last, untold⟩ := not_or.mp none
  have last := not_not.mp last
  have untold : parse (field.line [quote]) = Option.none := by simpa using untold
  refine alike_ends rejects alike (.unclosed form last .nil) first untold (by simp) ?_
    ⟨'a', reads 'a'⟩
  rw [last, List.append_nil, readFrom_quoted, skipQuoted]
  rfl

/-- A field that stands within a quoted value, with values that close it early. -/
theorem unmatched_forced {opened start : Char} {ending noise : List Char}
    (opens : isQuote opened = true)
    (alike : ∀ value other, field.Value value → field.Value other →
      parse (field.line value) = none → parse (field.line other) = none →
        shown (front ++ readFrom (.quoted opened false) (value ++ field.behind)) =
          shown (front ++ readFrom (.quoted opened false) (other ++ field.behind)))
    (different : start ≠ opened) (other : start ≠ '\\')
    (first : field.Value (start :: opened :: 'a' :: '\x01' :: ending))
    (second : field.Value (start :: opened :: 'b' :: '\x01' :: ending))
    (noised : field.Value noise) (holds : '\x01' ∈ noise)
    (silent : readFrom (.quoted opened false) (noise ++ field.behind) =
      readFrom (.quoted opened false) field.behind) :
    Filled front.length (skipQuoted opened field.behind ≠ []) := by
  have reads (c : Char) : ∃ left, readFrom (.quoted opened false)
      (start :: opened :: c :: '\x01' :: ending ++ field.behind) = c :: left := by
    rw [List.cons_append, quoted_passes different other]
    exact quoted_closes opens c _
  refine filled_forced (alike_tells rejects alike first second (by simp) (by simp) (by decide)
    (reads 'a') (reads 'b')) ?_
  intro none
  refine alike_ends rejects alike noised first (noise_text rejects holds) (by simp) ?_
    ⟨'a', reads 'a'⟩
  rw [silent, readFrom_quoted, not_not.mp none]
  rfl

theorem quoted_forced {opened : Char} (opens : isQuote opened = true)
    (alike : ∀ value other, field.Value value → field.Value other →
      parse (field.line value) = none → parse (field.line other) = none →
        shown (front ++ readFrom (.quoted opened false) (value ++ field.behind)) =
          shown (front ++ readFrom (.quoted opened false) (other ++ field.behind))) :
    CoveredAt parse field front.length (.quoted opened false) field.form := by
  have passes (c : Char) (rest : List Char) (plain : isQuote c = false) (other : c ≠ '\\') :
      readFrom (.quoted opened false) (c :: rest) = readFrom (.quoted opened false) rest :=
    quoted_passes (quote_apart opens plain) other
  have apart : 'a' ≠ opened := quote_apart opens (by decide)
  cases form : field.form with
  | quoted quote =>
    have quotes := field.quotes quote form
    by_cases matched : opened = quote
    · rw [matched] at alike
      exact (if_pos matched).mpr (matched_forced rejects form alike)
    · have valued (text : List Char)
          (plain : text.all (fun c => !isQuote c && c != '\\') = true) :
          field.Value (quote :: (opened :: text ++ [quote])) :=
        .closed form (.plain matched (quote_plain opens) (inside_plain quotes plain))
      have noise : field.Value (quote :: (['\x01'] ++ [quote])) :=
        .closed form (inside_plain quotes (by decide))
      refine (if_neg matched).mpr (unmatched_forced rejects opens alike (Ne.symm matched)
        (quote_plain quotes) (valued ['a', '\x01'] (by decide))
        (valued ['b', '\x01'] (by decide)) noise (by simp) ?_)
      rw [List.cons_append, quoted_passes (Ne.symm matched) (quote_plain quotes),
        List.append_assoc, List.singleton_append, passes '\x01' _ (by decide) (by decide),
        List.singleton_append, quoted_passes (Ne.symm matched) (quote_plain quotes)]
  | header =>
    have valued (c : Char) : field.Value ['a', opened, c, '\x01'] :=
      .header form (by simp; decide)
    have noise : field.Value ['\x01'] := .header form (by simp; decide)
    exact unmatched_forced rejects opens alike apart (by decide) (valued 'a') (valued 'b') noise
      (by simp) (passes '\x01' _ (by decide) (by decide))
  | run =>
    have covered := quote_covered opens
    have valued (c : Char) (plain : isDelimiter c = false) :
        field.Value ['a', opened, c, '\x01'] := by
      refine .run form ?_ (by simp; decide) (by simp; decide)
      simp only [List.mem_cons, List.not_mem_nil, or_false, forall_eq_or_imp, forall_eq]
      exact ⟨by decide, covered, plain, by decide⟩
    have noise : field.Value ['\x01'] :=
      .run form (by simp; decide) (by simp; decide) (by simp; decide)
    exact unmatched_forced rejects opens alike apart (by decide) (valued 'a' (by decide))
      (valued 'b' (by decide)) noise (by simp) (passes '\x01' _ (by decide) (by decide))

/-- In plain text the first characters of a value are shown. -/
theorem plain_forced {before : Option Char}
    (alike : ∀ value other, field.Value value → field.Value other →
      parse (field.line value) = none → parse (field.line other) = none →
        shown (front ++ readFrom (.text before) (value ++ field.behind)) =
          shown (front ++ readFrom (.text before) (other ++ field.behind)))
    (first : field.Value ['a', '\x01']) (second : field.Value ['b', '\x01'])
    (empty : field.behind = [] → field.Value []) :
    Filled front.length (field.behind ≠ [] ∨ (parse (field.line [])).isSome = true) := by
  have reads (c : Char) :
      ∃ left, readFrom (.text before) ([c, '\x01'] ++ field.behind) = c :: left :=
    text_reads before c _
  refine filled_forced (alike_tells rejects alike first second (by simp) (by simp) (by decide)
    (reads 'a') (reads 'b')) ?_
  intro none
  obtain ⟨last, untold⟩ := not_or.mp none
  have last := not_not.mp last
  have untold : parse (field.line []) = Option.none := by simpa using untold
  refine alike_ends rejects alike (empty last) first untold (by simp) ?_ ⟨'a', reads 'a'⟩
  rw [last]
  rfl

theorem text_forced {before : Option Char}
    (alike : ∀ value other, field.Value value → field.Value other →
      parse (field.line value) = none → parse (field.line other) = none →
        shown (front ++ readFrom (.text before) (value ++ field.behind)) =
          shown (front ++ readFrom (.text before) (other ++ field.behind))) :
    CoveredAt parse field front.length (.text before) field.form := by
  cases form : field.form with
  | quoted quote =>
    have quotes := field.quotes quote form
    have stepped (rest : List Char) : readFrom (.text before) (quote :: rest) =
        quote :: readFrom (.text (some quote)) rest := by
      rw [readFrom, advance, advanceText_other (quote_other quotes)]
      rfl
    have valued (text : List Char) (plain : text.all (fun c => !isQuote c && c != '\\') = true) :
        field.Value (quote :: (text ++ [quote])) := .closed form (inside_plain quotes plain)
    have reads (c : Char) : ∃ left, front ++ readFrom (.text before)
        (quote :: ([c, '\x01'] ++ [quote]) ++ field.behind) =
          front ++ [quote] ++ c :: left := by
      obtain ⟨left, same⟩ := text_reads (some quote) c ('\x01' :: quote :: field.behind)
      exact ⟨left, by rw [List.append_assoc, List.singleton_append, ← same, ← stepped]; rfl⟩
    have first := valued ['a', '\x01'] (by decide)
    obtain ⟨a, read_first⟩ := reads 'a'
    obtain ⟨b, read_second⟩ := reads 'b'
    have told := alike _ _ first (valued ['b', '\x01'] (by decide))
      (noise_text rejects (by simp)) (noise_text rejects (by simp))
    rw [read_first, read_second] at told
    have filled : Filled (front ++ [quote]).length
        (field.behind ≠ [] ∨ (parse (field.line [quote])).isSome = true) := by
      refine filled_forced ⟨'a', 'b', a, b, by decide, told⟩ ?_
      intro none
      obtain ⟨last, untold⟩ := not_or.mp none
      have last := not_not.mp last
      have untold : parse (field.line [quote]) = Option.none := by simpa using untold
      have ends := alike _ _ (.unclosed form last .nil) first untold (noise_text rejects (by simp))
      rw [read_first, last, List.append_nil, stepped] at ends
      exact ⟨'a', a, ends⟩
    rw [List.length_append] at filled
    exact filled
  | header =>
    have valued (c : Char) (plain : isQuote c = false ∧ isBlank c = false) :
        field.Value [c, '\x01'] := .header form (by simpa using plain)
    exact plain_forced rejects alike (valued 'a' (by decide)) (valued 'b' (by decide))
      fun _ => .header form (by simp)
  | run =>
    have first : field.Value ['a', '\x01'] :=
      .run form (by simp; decide) (by simp; decide) (by simp; decide)
    have second : field.Value ['b', '\x01'] :=
      .run form (by simp; decide) (by simp; decide) (by simp; decide)
    exact plain_forced rejects alike first second
      fun last => .run form (by simp) (by simp) (by simp [last])

end Modes

/-- By the mode before the value. -/
theorem hidden_covered (rejects : ∀ line : String, '\x01' ∈ line.toList → parse line = none)
    (hidden : field.Hidden parse print) : Covered parse field := by
  rw [hidden_iff] at hidden
  have at_value := reached_atValue field
  rw [Covered]
  obtain ⟨mode, same⟩ : ∃ mode, mode = field.reached.2 := ⟨_, rfl⟩
  have alike : ∀ value other, field.Value value → field.Value other →
      parse (field.line value) = none → parse (field.line other) = none →
        shown (field.reached.1 ++ readFrom mode (value ++ field.behind)) =
          shown (field.reached.1 ++ readFrom mode (other ++ field.behind)) := by
    rw [same]
    exact hidden
  rw [← same] at at_value ⊢
  cases at_value with
  | separated => trivial
  | header => trivial
  | run => exact run_forced rejects alike
  | quoted opens => exact quoted_forced rejects opens alike
  | text before => exact text_forced rejects alike

end Telling

/-! ## The redaction of log lines -/

theorem told_line {parse : String → Option Json} {print : Json → String} {line : String}
    {value : Json} (told : parse line = some value) :
    redactLogLine parse print line = sanitize (print (redactJson value)) := by
  rw [redactLogLine, told]

/-- The value of a field of a text line is hidden exactly if the scanner comes to it as a value, or
nothing of it is shown. What the members with a sensitive name hold is always hidden. -/
theorem redaction_hides (parse : String → Option Json) (print : Json → String)
    (rejects : ∀ line : String, '\x01' ∈ line.toList → parse line = none) :
    (∀ field : Occurrence, field.Hidden parse print ↔ Covered parse field) ∧
      ∀ line other value value', parse line = some value → parse other = some value' →
        Agree value value' → redactLogLine parse print line = redactLogLine parse print other := by
  refine ⟨fun field => ⟨hidden_covered rejects, covered_hidden⟩, ?_⟩
  intro line other value value' first second agree
  rw [told_line first, told_line second, redactJson_agree agree]

/-! ## A login, and a token behind another secret -/

def sampleParse (line : String) : Option Json :=
  if line = "\x7b\"token\":\"one\"\x7d" then some (.object [("token", .string "one")])
  else if line = "\x7b\"token\":\"two\"\x7d" then some (.object [("token", .string "two")])
  else none

def samplePrint : Json → String
  | .object [(name, .string text)] => "\x7b\"" ++ name ++ "\":\"" ++ text ++ "\"\x7d"
  | _ => "null"

theorem sampleParse_rejects (line : String) (noise : '\x01' ∈ line.toList) :
    sampleParse line = none := by
  have first : line ≠ "\x7b\"token\":\"one\"\x7d" := by
    rintro rfl
    exact absurd noise (by decide)
  have second : line ≠ "\x7b\"token\":\"two\"\x7d" := by
    rintro rfl
    exact absurd noise (by decide)
  rw [sampleParse, if_neg first, if_neg second]

def login : Occurrence where
  before := "login ".toList
  name := "password".toList
  closing := []
  spaces := []
  separator := '='
  blanks := []
  form := .run
  behind := " user=alice".toList
  starts := by
    intro c last
    cases last
    rfl
  letters := by decide
  secret := by decide
  closes := .inl rfl
  spaced := rfl
  separates := rfl
  blank := rfl
  quotes := by simp
  rest := by simp
  ends := by
    refine fun _ => ⟨by decide, ?_⟩
    intro c first
    cases first
    rfl

/-- `password: token: hunter2`, where the password is `token:`. -/
def behindPassword : Occurrence where
  before := "password: ".toList
  name := "token".toList
  closing := []
  spaces := []
  separator := ':'
  blanks := [' ']
  form := .run
  behind := []
  starts := by
    intro c last
    cases last
    rfl
  letters := by decide
  secret := by decide
  closes := .inl rfl
  spaced := rfl
  separates := rfl
  blank := rfl
  quotes := by simp
  rest := by simp
  ends := by simp; decide

theorem login_hidden : login.Hidden sampleParse samplePrint ∧
    redactLogLine sampleParse samplePrint "\x7b\"token\":\"one\"\x7d" =
      redactLogLine sampleParse samplePrint "\x7b\"token\":\"two\"\x7d" := by
  have hides := redaction_hides sampleParse samplePrint sampleParse_rejects
  refine ⟨(hides.1 login).mpr ?_, hides.2 _ _ _ _ rfl rfl (.object (.secret _ _ (by decide) .nil))⟩
  have reached : login.reached.2 = .separated false := by decide
  rw [Covered, reached]
  trivial

theorem behindPassword_value {text : List Char}
    (plain : text.all (fun c => !isDelimiter c && !isQuote c) = true) :
    behindPassword.Value text := by
  have facts : ∀ c ∈ text, isDelimiter c = false ∧ isQuote c = false := by
    simpa using plain
  refine .run rfl (fun c inside => (facts c inside).1)
    (fun c first => (facts c (List.mem_of_head? first)).2) ?_
  intro c first
  have last : text ++ behindPassword.behind = text := List.append_nil text
  rw [last] at first
  have covered := (facts c (List.mem_of_head? first)).1
  rw [isDelimiter] at covered
  simp only [Bool.or_eq_false_iff] at covered
  exact covered.1.1.1

theorem behindPassword_shown : ¬∀ field : Occurrence, field.Hidden sampleParse samplePrint := by
  intro hides
  have first : behindPassword.Value "hunter2".toList := behindPassword_value (by decide)
  have second : behindPassword.Value "hunter3".toList := behindPassword_value (by decide)
  have same := hides behindPassword _ _ first second (by decide) (by decide)
  exact absurd same (by decide)

end NazoAuthCtl.LogRedaction
