import Mathlib.Data.List.TakeWhile
import Mathlib.Order.Basic

/-!
# Redaction of log text

The scanner of log text takes whole names. After a sensitive name, a closing quote, blanks and
a separator it leaves out the value, and goes on behind it. A reader of single characters does
the same with a mode, so that what is put out is known after any part of a line.
-/

set_option autoImplicit false
set_option linter.all false

namespace NazoAuthCtl.RedactionScan

/-! ## Characters and names -/

def isNameChar (c : Char) : Bool :=
  ('0' ≤ c && c ≤ '9') || ('a' ≤ c && c ≤ 'z') || ('A' ≤ c && c ≤ 'Z') || c == '_' || c == '-'

/-- `is_ascii_whitespace`. -/
def isBlank (c : Char) : Bool :=
  c == ' ' || c == '\t' || c == '\n' || c == '\x0c' || c == '\r'

def isQuote (c : Char) : Bool := c == '"' || c == '\''

def isSeparator (c : Char) : Bool := c == ':' || c == '='

/-- What ends a value that is not quoted. -/
def isDelimiter (c : Char) : Bool := isBlank c || c == ',' || c == ';' || c == '\x7d'

def lowerChar (c : Char) : Char := if 'A' ≤ c && c ≤ 'Z' then Char.ofNat (c.toNat + 32) else c

/-- `eq_ignore_ascii_case`. -/
def sameName (a : List Char) (b : String) : Bool := a.map lowerChar == b.toList.map lowerChar

def headerNames : List String := ["authorization", "proxy-authorization", "cookie", "set-cookie"]

def sensitiveNames : List String :=
  headerNames ++ ["database_url", "valkey_url", "password", "secret", "token", "private_key"]

def sensitiveSuffixes : List String := ["_password", "_secret", "_token", "_private_key"]

def isHeader (name : List Char) : Bool := headerNames.any (sameName name)

/-- The suffixes are ASCII, so that the end of a name is one of them by its characters exactly if
it is by its bytes. -/
def sensitive (name : List Char) : Bool :=
  sensitiveNames.any (sameName name) || sensitiveSuffixes.any fun suffix =>
    sameName (name.drop (name.length - suffix.toList.length)) suffix

/-! ## The scanner -/

/-- What follows a quoted value. A backslash takes the next character with it. -/
def skipQuoted (quote : Char) : List Char → List Char
  | [] => []
  | [_] => []
  | c :: d :: rest =>
    if c = '\\' then skipQuoted quote rest
    else if c = quote then d :: rest
    else skipQuoted quote (d :: rest)

/-- What follows the value of a field. -/
def afterValue (header : Bool) : List Char → List Char
  | [] => []
  | c :: rest =>
    if isQuote c then skipQuoted c rest
    else if header then []
    else (c :: rest).dropWhile fun d => !isDelimiter d

/-- The quote behind a name that stands behind the same quote. -/
def closing (before : Option Char) : List Char → List Char
  | [] => []
  | c :: _ => if before = some c && isQuote c then [c] else []

def mark : List Char := "[redacted]".toList

/-- One turn of the scanner at the start of a name: what it puts out, and what is left. -/
def nameTurn (before : Option Char) (text : List Char) : List Char × List Char :=
  let name := text.takeWhile isNameChar
  let behind := text.dropWhile isNameChar
  if sensitive name then
    let quote := closing before behind
    let blanks := (behind.drop quote.length).takeWhile isBlank
    match (behind.drop quote.length).dropWhile isBlank with
    | [] => (name ++ quote ++ blanks, [])
    | c :: rest =>
      if isSeparator c then
        (name ++ quote ++ blanks ++ c :: (rest.takeWhile isBlank ++ mark),
          afterValue (isHeader name) (rest.dropWhile isBlank))
      else (name ++ quote ++ blanks, c :: rest)
  else (name, behind)

def turn (before : Option Char) (text : List Char) : List Char × List Char :=
  match text with
  | [] => ([], [])
  | c :: rest => if isNameChar c then nameTurn before (c :: rest) else ([c], rest)

/-- The character before what is left of a text. -/
def lastBefore (text left : List Char) : Option Char :=
  (text.take (text.length - left.length)).getLast?

/-- The loop over a line. Each turn takes a character at least. -/
def redactFrom : ℕ → Option Char → List Char → List Char
  | 0, _, _ => []
  | fuel + 1, before, text =>
    (turn before text).1 ++
      redactFrom fuel (lastBefore text (turn before text).2) (turn before text).2

def redactText (line : List Char) : List Char := redactFrom line.length none line

/-! ## The reader of characters -/

inductive Mode where
  | text (before : Option Char)
  | name (before : Option Char) (letters : List Char)
  /-- Behind a sensitive name. -/
  | gap (header : Bool) (last : Char)
  /-- Behind the separator. -/
  | separated (header : Bool)
  | quoted (quote : Char) (escaped : Bool)
  | header
  | run
  deriving DecidableEq, Repr

def advanceText (before : Option Char) (c : Char) : List Char × Mode :=
  if isNameChar c then ([c], .name before [c]) else ([c], .text (some c))

def advanceGap (header : Bool) (last : Char) (c : Char) : List Char × Mode :=
  if isBlank c then ([c], .gap header c)
  else if isSeparator c then ([c], .separated header)
  else advanceText (some last) c

def advance : Mode → Char → List Char × Mode
  | .text before, c => advanceText before c
  | .name before letters, c =>
    if isNameChar c then ([c], .name before (letters ++ [c]))
    else if sensitive letters then
      if before = some c && isQuote c then ([c], .gap (isHeader letters) c)
      else advanceGap (isHeader letters) c c
    else ([c], .text (some c))
  | .gap header last, c => advanceGap header last c
  | .separated header, c =>
    if isBlank c then ([c], .separated header)
    else if isQuote c then (mark, .quoted c false)
    else if header then (mark, .header)
    else if isDelimiter c then (mark ++ [c], .text (some c))
    else (mark, .run)
  | .quoted quote escaped, c =>
    if escaped then ([], .quoted quote false)
    else if c = '\\' then ([], .quoted quote true)
    else if c = quote then ([], .text (some c))
    else ([], .quoted quote false)
  | .header, _ => ([], .header)
  | .run, c => if isDelimiter c then ([c], .text (some c)) else ([], .run)

/-- What is put out at the end of a line. -/
def finish : Mode → List Char
  | .separated _ => mark
  | _ => []

def readFrom : Mode → List Char → List Char
  | mode, [] => finish mode
  | mode, c :: rest => (advance mode c).1 ++ readFrom (advance mode c).2 rest

/-- What is put out along a part of a line, and the mode behind it. -/
def through : Mode → List Char → List Char × Mode
  | mode, [] => ([], mode)
  | mode, c :: rest =>
    ((advance mode c).1 ++ (through (advance mode c).2 rest).1,
      (through (advance mode c).2 rest).2)

/-! ## The reader along parts of a line -/

section Parts

variable {mode : Mode} {before : Option Char} {letters part text : List Char} {flag : Bool}
  {last q : Char}

theorem readFrom_append (mode : Mode) (part text : List Char) :
    readFrom mode (part ++ text) =
      (through mode part).1 ++ readFrom (through mode part).2 text := by
  induction part generalizing mode with
  | nil => rfl
  | cons c rest hypothesis =>
    rw [List.cons_append, readFrom, hypothesis, through, List.append_assoc]

theorem through_append (mode : Mode) (part text : List Char) :
    through mode (part ++ text) = ((through mode part).1 ++ (through (through mode part).2 text).1,
      (through (through mode part).2 text).2) := by
  induction part generalizing mode with
  | nil => rfl
  | cons c rest hypothesis =>
    rw [List.cons_append, through, hypothesis, through, List.append_assoc]

theorem advance_name {c : Char} (letter : isNameChar c = true) :
    advance (.name before letters) c = ([c], .name before (letters ++ [c])) := by
  rw [advance, if_pos letter]

theorem advanceText_name {c : Char} (letter : isNameChar c = true) :
    advanceText before c = ([c], .name before [c]) := by
  rw [advanceText, if_pos letter]

theorem advanceText_other {c : Char} (other : isNameChar c = false) :
    advanceText before c = ([c], .text (some c)) := by
  rw [advanceText, if_neg (ne_true_of_eq_false other)]

theorem through_name (all : ∀ c ∈ part, isNameChar c = true) :
    through (.name before letters) part = (part, .name before (letters ++ part)) := by
  induction part generalizing letters with
  | nil => rw [List.append_nil, through]
  | cons c rest hypothesis =>
    rw [through, advance_name (all c List.mem_cons_self),
      hypothesis fun d inside => all d (List.mem_cons_of_mem _ inside), List.append_assoc]
    rfl

theorem through_text_name {c : Char} {rest : List Char}
    (all : ∀ d ∈ c :: rest, isNameChar d = true) :
    through (.text before) (c :: rest) = (c :: rest, .name before (c :: rest)) := by
  rw [through, advance, advanceText_name (all c List.mem_cons_self),
    through_name fun d inside => all d (List.mem_cons_of_mem _ inside)]
  rfl

theorem through_gap (all : ∀ c ∈ part, isBlank c = true) :
    through (.gap flag last) part = (part, .gap flag (part.getLast?.getD last)) := by
  induction part generalizing last with
  | nil => rfl
  | cons c rest hypothesis =>
    rw [through, advance, advanceGap, if_pos (all c List.mem_cons_self),
      hypothesis fun d inside => all d (List.mem_cons_of_mem _ inside), List.getLast?_cons]
    rfl

theorem through_separated (all : ∀ c ∈ part, isBlank c = true) :
    through (.separated flag) part = (part, .separated flag) := by
  induction part with
  | nil => rfl
  | cons c rest hypothesis =>
    rw [through, advance, if_pos (all c List.mem_cons_self),
      hypothesis fun d inside => all d (List.mem_cons_of_mem _ inside)]
    rfl

theorem readFrom_header (text : List Char) : readFrom .header text = [] := by
  induction text with
  | nil => rfl
  | cons c rest hypothesis => rw [readFrom, advance, hypothesis, List.append_nil]

theorem advance_quoted (q c : Char) : advance (.quoted q false) c =
    if c = '\\' then ([], .quoted q true) else if c = q then ([], .text (some c))
    else ([], .quoted q false) := rfl

theorem readFrom_quoted (q : Char) (text : List Char) :
    readFrom (.quoted q false) text = readFrom (.text (some q)) (skipQuoted q text) := by
  induction text using skipQuoted.induct q with
  | case1 => rfl
  | case2 c =>
    change (advance (.quoted q false) c).1 ++ finish (advance (.quoted q false) c).2 = []
    rw [advance_quoted]
    split
    · rfl
    · split
      · rfl
      · rfl
  | case3 d rest hypothesis =>
    rw [skipQuoted, if_pos rfl, ← hypothesis]
    rfl
  | case4 d rest other =>
    rw [skipQuoted, if_neg other, if_pos rfl, readFrom, advance_quoted, if_neg other, if_pos rfl]
    rfl
  | case5 c d rest other different hypothesis =>
    rw [skipQuoted, if_neg other, if_neg different, readFrom, advance_quoted, if_neg other,
      if_neg different, hypothesis]
    rfl

theorem delimiter_other {c : Char} (delimits : isDelimiter c = true) : isNameChar c = false := by
  rw [isDelimiter, isBlank] at delimits
  simp only [Bool.or_eq_true, beq_iff_eq] at delimits
  rcases delimits with ((((((rfl | rfl) | rfl) | rfl) | rfl) | rfl) | rfl) | rfl
  all_goals decide

theorem dropWhile_head {p : Char → Bool} {c : Char}
    (head : (text.dropWhile p).head? = some c) : p c = false := by
  have kept := List.head?_dropWhile_not p text
  rw [head] at kept
  simpa using kept

theorem readFrom_run (before : Option Char) (text : List Char) :
    readFrom .run text =
      readFrom (.text before) (text.dropWhile fun c => !isDelimiter c) := by
  induction text with
  | nil => rfl
  | cons c rest hypothesis =>
    cases delimits : isDelimiter c with
    | true =>
      have stopped : advance .run c = ([c], .text (some c)) := if_pos delimits
      have plain : advance (.text before) c = ([c], .text (some c)) :=
        advanceText_other (delimiter_other delimits)
      rw [List.dropWhile_cons, delimits, if_neg (by decide), readFrom, readFrom, stopped, plain]
    | false =>
      have covered : advance .run c = ([], .run) := if_neg (ne_true_of_eq_false delimits)
      rw [List.dropWhile_cons, delimits, if_pos (by decide), readFrom, covered, hypothesis]
      rfl

end Parts

/-! ## The scanner reads as the reader does -/

section Turns

variable {before : Option Char} {text name : List Char} {flag : Bool}

theorem lastBefore_part (part left : List Char) :
    lastBefore (part ++ left) left = part.getLast? := by
  rw [lastBefore, List.length_append, Nat.add_sub_cancel, List.take_left]

theorem skipQuoted_part (q : Char) (text : List Char) :
    skipQuoted q text = [] ∨ ∃ part, text = part ++ q :: skipQuoted q text := by
  induction text using skipQuoted.induct q with
  | case1 => exact .inl rfl
  | case2 c => exact .inl rfl
  | case3 d rest hypothesis =>
    rw [skipQuoted, if_pos rfl]
    rcases hypothesis with none | ⟨part, same⟩
    · exact .inl none
    · exact .inr ⟨'\\' :: d :: part, congrArg (fun rest => '\\' :: d :: rest) same⟩
  | case4 d rest other =>
    rw [skipQuoted, if_neg other, if_pos rfl]
    exact .inr ⟨[], rfl⟩
  | case5 c d rest other different hypothesis =>
    rw [skipQuoted, if_neg other, if_neg different]
    rcases hypothesis with none | ⟨part, same⟩
    · exact .inl none
    · exact .inr ⟨c :: part, congrArg (c :: ·) same⟩

/-- A value is left out, and reading goes on behind it. The character before what is left matters
behind a closing quote alone, and is that quote then. -/
theorem separated_read (flag : Bool) (value front : List Char)
    (start : ∀ c, value.head? = some c → isBlank c = false) :
    readFrom (.separated flag) value = mark ++
      readFrom (.text (lastBefore (front ++ value) (afterValue flag value)))
        (afterValue flag value) := by
  cases value with
  | nil => exact (List.append_nil mark).symm
  | cons c rest =>
    have blank := start c rfl
    cases quoted : isQuote c with
    | true =>
      have opened : advance (.separated flag) c = (mark, .quoted c false) := by
        rw [advance, if_neg (ne_true_of_eq_false blank), if_pos quoted]
      rw [readFrom, opened, afterValue, if_pos quoted, readFrom_quoted]
      rcases skipQuoted_part c rest with none | ⟨part, same⟩
      · rw [none]
        rfl
      · have before : lastBefore (front ++ c :: rest) (skipQuoted c rest) = some c := by
          have whole : front ++ c :: rest = (front ++ c :: part ++ [c]) ++ skipQuoted c rest := by
            rw [List.append_assoc, List.append_assoc]
            exact congrArg (fun rest => front ++ c :: rest) same
          rw [whole, lastBefore_part, List.getLast?_append]
          rfl
        rw [before]
    | false =>
      have unquoted := ne_true_of_eq_false quoted
      rw [afterValue, if_neg unquoted, readFrom]
      cases flag with
      | true =>
        have opened : advance (.separated true) c = (mark, .header) := by
          rw [advance, if_neg (ne_true_of_eq_false blank), if_neg unquoted, if_pos rfl]
        rw [opened, readFrom_header, if_pos rfl]
        rfl
      | false =>
        rw [if_neg Bool.false_ne_true]
        cases delimits : isDelimiter c with
        | true =>
          have opened : advance (.separated false) c = (mark ++ [c], .text (some c)) := by
            rw [advance, if_neg (ne_true_of_eq_false blank), if_neg unquoted,
              if_neg Bool.false_ne_true, if_pos delimits]
          have plain (before : Option Char) : advance (.text before) c = ([c], .text (some c)) :=
            advanceText_other (delimiter_other delimits)
          rw [opened, List.dropWhile_cons, delimits, if_neg (by decide), readFrom, plain,
            List.append_assoc]
        | false =>
          have opened : advance (.separated false) c = (mark, .run) := by
            rw [advance, if_neg (ne_true_of_eq_false blank), if_neg unquoted,
              if_neg Bool.false_ne_true, if_neg (ne_true_of_eq_false delimits)]
          rw [opened, List.dropWhile_cons, delimits, if_pos (by decide),
            readFrom_run (lastBefore (front ++ c :: rest) (rest.dropWhile fun d => !isDelimiter d))]

theorem gap_read (last : Char) (text : List Char) :
    readFrom (.gap flag last) text = text.takeWhile isBlank ++
      readFrom (.gap flag ((text.takeWhile isBlank).getLast?.getD last))
        (text.dropWhile isBlank) := by
  have blanks : ∀ c ∈ text.takeWhile isBlank, isBlank c = true := fun c inside =>
    List.mem_takeWhile_imp inside
  have parts := readFrom_append (.gap flag last) (text.takeWhile isBlank) (text.dropWhile isBlank)
  rw [List.takeWhile_append_dropWhile, through_gap blanks] at parts
  exact parts

theorem separated_blanks (text : List Char) :
    readFrom (.separated flag) text = text.takeWhile isBlank ++
      readFrom (.separated flag) (text.dropWhile isBlank) := by
  have blanks : ∀ c ∈ text.takeWhile isBlank, isBlank c = true := fun c inside =>
    List.mem_takeWhile_imp inside
  have parts := readFrom_append (.separated flag) (text.takeWhile isBlank)
    (text.dropWhile isBlank)
  rw [List.takeWhile_append_dropWhile, through_separated blanks] at parts
  exact parts

/-- What the reader makes of the part behind a name, its closing quote and its blanks. -/
theorem gap_end {last c : Char} {rest : List Char} (blank : isBlank c = false) :
    readFrom (.gap flag last) (c :: rest) =
      if isSeparator c then c :: readFrom (.separated flag) rest
      else readFrom (.text (some last)) (c :: rest) := by
  cases separates : isSeparator c with
  | true =>
    have stepped : advance (.gap flag last) c = ([c], .separated flag) := by
      rw [advance, advanceGap, if_neg (ne_true_of_eq_false blank), if_pos separates]
    rw [readFrom, stepped, if_pos rfl]
    rfl
  | false =>
    have stepped : advance (.gap flag last) c = advanceText (some last) c := by
      rw [advance, advanceGap, if_neg (ne_true_of_eq_false blank),
        if_neg (ne_true_of_eq_false separates)]
    rw [readFrom, stepped, if_neg Bool.false_ne_true]
    rfl

theorem last_append (part rest : List Char) (c : Char) :
    (part ++ c :: rest).getLast? = (c :: rest).getLast? := by
  rw [List.getLast?_append, List.getLast?_cons]
  rfl

/-- What is put out behind the name of a field. -/
def fieldEnd (flag : Bool) (last : Option Char) : List Char → List Char
  | [] => []
  | c :: rest =>
    if isSeparator c then c :: readFrom (.separated flag) rest
    else readFrom (.text last) (c :: rest)

theorem gap_field (last : Char) (text : List Char) :
    readFrom (.gap flag last) text = text.takeWhile isBlank ++
      fieldEnd flag ((last :: text.takeWhile isBlank).getLast?) (text.dropWhile isBlank) := by
  have same : (last :: text.takeWhile isBlank).getLast? =
      some ((text.takeWhile isBlank).getLast?.getD last) := List.getLast?_cons
  rw [gap_read, same]
  cases left : text.dropWhile isBlank with
  | nil => rfl
  | cons c rest =>
    have blank : isBlank c = false := dropWhile_head (by rw [left]; rfl)
    rw [gap_end blank, fieldEnd]

theorem plain_end (other : ∀ c, text.head? = some c → isNameChar c = false)
    (plain : sensitive name = false) (last : Option Char) :
    readFrom (.name before name) text = readFrom (.text last) text := by
  cases text with
  | nil => rfl
  | cons c rest =>
    have stepped : advance (.name before name) c = ([c], .text (some c)) := by
      rw [advance, if_neg (ne_true_of_eq_false (other c rfl)),
        if_neg (ne_true_of_eq_false plain)]
    have again : advance (.text last) c = ([c], .text (some c)) := advanceText_other (other c rfl)
    rw [readFrom, readFrom, stepped, again]

theorem sensitive_end (other : ∀ c, text.head? = some c → isNameChar c = false)
    (secret : sensitive name = true) :
    readFrom (.name before name) text = closing before text ++
      ((text.drop (closing before text).length).takeWhile isBlank ++
        fieldEnd (isHeader name)
          (name ++ closing before text ++
            (text.drop (closing before text).length).takeWhile isBlank).getLast?
          ((text.drop (closing before text).length).dropWhile isBlank)) := by
  cases text with
  | nil => rfl
  | cons c rest =>
    have letter := ne_true_of_eq_false (other c rfl)
    by_cases closes : (before = some c && isQuote c) = true
    · have stepped : advance (.name before name) c = ([c], .gap (isHeader name) c) := by
        rw [advance, if_neg letter, if_pos secret, if_pos closes]
      have quote : closing before (c :: rest) = [c] := if_pos closes
      have behind : (c :: rest).drop [c].length = rest := rfl
      have ends : (name ++ [c] ++ rest.takeWhile isBlank).getLast? =
          (c :: rest.takeWhile isBlank).getLast? := by
        rw [List.append_assoc]
        exact last_append name _ c
      rw [readFrom, stepped, quote, behind, gap_field, ends]
    · have quote : closing before (c :: rest) = [] := if_neg closes
      have stepped : advance (.name before name) c = advanceGap (isHeader name) c c := by
        rw [advance, if_neg letter, if_pos secret, if_neg closes]
      rw [readFrom, stepped, quote, List.length_nil, List.drop_zero, List.append_nil,
        List.nil_append, advanceGap]
      cases blank : isBlank c with
      | true =>
        rw [if_pos rfl, gap_field, List.takeWhile_cons, blank, if_pos rfl, List.dropWhile_cons,
          blank, if_pos rfl, last_append]
        rfl
      | false =>
        rw [if_neg Bool.false_ne_true, List.takeWhile_cons, blank, if_neg Bool.false_ne_true,
          List.dropWhile_cons, blank, if_neg Bool.false_ne_true, List.append_nil, List.nil_append,
          fieldEnd]
        cases separates : isSeparator c with
        | true => rfl
        | false =>
          rw [if_neg Bool.false_ne_true, if_neg Bool.false_ne_true,
            advanceText_other (other c rfl), readFrom]
          have plain : advance (.text name.getLast?) c = ([c], .text (some c)) :=
            advanceText_other (other c rfl)
          rw [plain]

theorem closing_front : text.take (closing before text).length = closing before text := by
  cases text with
  | nil => rfl
  | cons c rest =>
    by_cases closes : (before = some c && isQuote c) = true
    · have quote : closing before (c :: rest) = [c] := if_pos closes
      rw [quote]
      rfl
    · have none : closing before (c :: rest) = [] := if_neg closes
      rw [none]
      rfl

/-- The parts of a text that starts with a name. -/
theorem name_parts {c : Char} {rest : List Char} (letter : isNameChar c = true) :
    readFrom (.text before) (c :: rest) = (c :: rest).takeWhile isNameChar ++
      readFrom (.name before ((c :: rest).takeWhile isNameChar))
        ((c :: rest).dropWhile isNameChar) := by
  have parts := readFrom_append (.text before) ((c :: rest).takeWhile isNameChar)
    ((c :: rest).dropWhile isNameChar)
  have all : ∀ d ∈ (c :: rest).takeWhile isNameChar, isNameChar d = true := fun d inside =>
    List.mem_takeWhile_imp inside
  have first : (c :: rest).takeWhile isNameChar = c :: rest.takeWhile isNameChar := by
    rw [List.takeWhile_cons, if_pos letter]
  rw [List.takeWhile_append_dropWhile] at parts
  rw [first] at all parts ⊢
  rw [through_text_name all] at parts
  exact parts

theorem nameTurn_read {c : Char} {rest : List Char} (letter : isNameChar c = true) :
    readFrom (.text before) (c :: rest) = (nameTurn before (c :: rest)).1 ++
      readFrom (.text (lastBefore (c :: rest) (nameTurn before (c :: rest)).2))
        (nameTurn before (c :: rest)).2 := by
  rw [name_parts letter]
  obtain ⟨name, isName⟩ : ∃ name, name = (c :: rest).takeWhile isNameChar := ⟨_, rfl⟩
  obtain ⟨behind, isBehind⟩ : ∃ behind, behind = (c :: rest).dropWhile isNameChar := ⟨_, rfl⟩
  have whole : c :: rest = name ++ behind := by
    rw [isName, isBehind, List.takeWhile_append_dropWhile]
  have other : ∀ d, behind.head? = some d → isNameChar d = false := by
    intro d head
    rw [isBehind] at head
    exact dropWhile_head head
  rw [nameTurn, ← isName, ← isBehind, whole]
  simp only
  cases secret : sensitive name with
  | false =>
    rw [if_neg Bool.false_ne_true, plain_end other secret]
  | true =>
    rw [if_pos rfl, sensitive_end other secret]
    obtain ⟨quote, isQuoted⟩ : ∃ quote, quote = closing before behind := ⟨_, rfl⟩
    obtain ⟨blanks, isBlanks⟩ :
        ∃ blanks, blanks = (behind.drop quote.length).takeWhile isBlank := ⟨_, rfl⟩
    have front : behind.take quote.length = quote := by
      rw [isQuoted]
      exact closing_front
    rw [← isQuoted, ← isBlanks]
    cases left : (behind.drop quote.length).dropWhile isBlank with
    | nil =>
      simp only [fieldEnd, List.append_nil]
      rw [readFrom]
      simp [finish]
    | cons d tail =>
      have blank : isBlank d = false := dropWhile_head (by rw [left]; rfl)
      have parts : behind = quote ++ (blanks ++ d :: tail) := by
        rw [isBlanks, ← left, List.takeWhile_append_dropWhile]
        exact ((congrArg (· ++ _) front).symm.trans (List.take_append_drop _ _)).symm
      simp only [fieldEnd]
      cases separates : isSeparator d with
      | false =>
        rw [if_neg Bool.false_ne_true, if_neg Bool.false_ne_true]
        have last : lastBefore (name ++ behind) (d :: tail) =
            (name ++ quote ++ blanks).getLast? := by
          rw [parts, ← List.append_assoc, ← List.append_assoc, lastBefore_part]
        rw [last, List.append_assoc, List.append_assoc, List.append_assoc]
      | true =>
        rw [if_pos rfl, if_pos rfl, separated_blanks]
        have start : ∀ e, (tail.dropWhile isBlank).head? = some e → isBlank e = false :=
          fun e head => dropWhile_head head
        have value : name ++ behind =
            (name ++ quote ++ blanks ++ d :: tail.takeWhile isBlank) ++ tail.dropWhile isBlank := by
          rw [parts]
          simp only [List.append_assoc, List.cons_append, List.takeWhile_append_dropWhile]
        rw [value, separated_read (isHeader name) (tail.dropWhile isBlank)
          (name ++ quote ++ blanks ++ d :: tail.takeWhile isBlank) start]
        simp only [List.append_assoc, List.cons_append]

/-- A turn is what the reader does with the same part. -/
theorem turn_read (before : Option Char) {text : List Char} (nonempty : text ≠ []) :
    readFrom (.text before) text = (turn before text).1 ++
      readFrom (.text (lastBefore text (turn before text).2)) (turn before text).2 := by
  cases text with
  | nil => exact absurd rfl nonempty
  | cons c rest =>
    rw [turn]
    cases letter : isNameChar c with
    | true =>
      rw [if_pos rfl]
      exact nameTurn_read letter
    | false =>
      have last : lastBefore (c :: rest) rest = some c := lastBefore_part [c] rest
      have stepped : advance (.text before) c = ([c], .text (some c)) := advanceText_other letter
      rw [if_neg Bool.false_ne_true, last, readFrom, stepped]

theorem skipQuoted_length (q : Char) (text : List Char) :
    (skipQuoted q text).length ≤ text.length := by
  rcases skipQuoted_part q text with none | ⟨part, same⟩
  · rw [none]
    exact Nat.zero_le _
  · have whole := congrArg List.length same
    rw [List.length_append, List.length_cons] at whole
    omega

theorem afterValue_length (flag : Bool) (text : List Char) :
    (afterValue flag text).length ≤ text.length := by
  cases text with
  | nil => exact Nat.le_refl _
  | cons c rest =>
    have shorter := skipQuoted_length c rest
    have dropped : ((c :: rest).dropWhile fun d => !isDelimiter d).length ≤ (c :: rest).length :=
      (List.dropWhile_sublist _).length_le
    have longer : rest.length ≤ (c :: rest).length := Nat.le_succ _
    rw [afterValue]
    split
    · exact shorter.trans longer
    · split
      · exact Nat.zero_le _
      · exact dropped

theorem nameTurn_less {c : Char} {rest : List Char} (letter : isNameChar c = true) :
    (nameTurn before (c :: rest)).2.length < (c :: rest).length := by
  have behind : ((c :: rest).dropWhile isNameChar).length < (c :: rest).length := by
    rw [List.dropWhile_cons, if_pos letter]
    exact Nat.lt_succ_of_le (List.dropWhile_sublist isNameChar).length_le
  rw [nameTurn]
  simp only
  split
  · have left (text : List Char) (count : ℕ) :
        ((text.drop count).dropWhile isBlank).length ≤ text.length :=
      (List.dropWhile_sublist isBlank).length_le.trans (List.drop_sublist count text).length_le
    have some_left := left ((c :: rest).dropWhile isNameChar)
      (closing before ((c :: rest).dropWhile isNameChar)).length
    split
    · exact Nat.succ_pos _
    · next d tail same =>
      rw [same, List.length_cons] at some_left
      split
      · have value := afterValue_length (isHeader ((c :: rest).takeWhile isNameChar))
          (tail.dropWhile isBlank)
        have fewer : (tail.dropWhile isBlank).length ≤ tail.length :=
          (List.dropWhile_sublist isBlank).length_le
        change (afterValue _ _).length < _
        omega
      · change (d :: tail).length < _
        rw [List.length_cons]
        omega
  · exact behind

theorem turn_less {c : Char} {rest : List Char} :
    (turn before (c :: rest)).2.length < (c :: rest).length := by
  rw [turn]
  split
  · next letter => exact nameTurn_less letter
  · exact Nat.lt_succ_self _

/-- By induction on the turns: each takes a character at least. -/
theorem redactFrom_read (fuel : ℕ) (before : Option Char) (text : List Char)
    (enough : text.length ≤ fuel) :
    redactFrom fuel before text = readFrom (.text before) text := by
  induction fuel generalizing before text with
  | zero =>
    rw [List.length_eq_zero_iff.mp (Nat.le_zero.mp enough)]
    rfl
  | succ fuel hypothesis =>
    rw [redactFrom]
    cases text with
    | nil => exact hypothesis _ [] (Nat.zero_le _)
    | cons c rest =>
      have less : (turn before (c :: rest)).2.length < (c :: rest).length := turn_less
      rw [hypothesis _ _ (by omega), ← turn_read before (List.cons_ne_nil c rest)]

/-- The scanner puts out what the reader does, so that what it makes of a line is known from the
mode behind any part of it. -/
theorem redactText_read (line : List Char) : redactText line = readFrom (.text none) line :=
  redactFrom_read line.length none line (Nat.le_refl _)

end Turns


end NazoAuthCtl.RedactionScan
