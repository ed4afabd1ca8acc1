import NazoAuthCtl.ControlDelivery
import Mathlib.Data.List.DropRight

/-!
# Torn lines of a target's operation journal

An append is one write of a line and its newline, so an interrupted one leaves a
part of the line at the end of the file. `read_lines_with` splits the file behind
its last newline. A complete record there gets its newline, an incomplete one is
dropped, and everything before has to be a valid line. The JSON of a line is a
parameter, with what a compact printer and a strict parser do on one line.
-/

set_option autoImplicit false
set_option linter.all false

namespace NazoAuthCtl.JournalTail

open TargetState (Bytes)
open JournalCompaction (JournalStatus JournalBounds)
open ControlDelivery (sanitize)

abbrev newline : UInt8 := 10
abbrev carriageReturn : UInt8 := 13

structure HostResult (β : Type) where
  schema : UInt32
  operationId : String
  outcome : β
  deriving DecidableEq

structure JournalLine (β : Type) where
  schema : UInt32
  operationId : String
  operationHash : String
  action : String
  recordedAt : ℤ
  status : JournalStatus
  result : Option (HostResult β)
  deriving DecidableEq

structure JsonError where
  isEof : Bool
  text : String
  deriving DecidableEq

/-- How `serde_json` writes and reads a line. -/
structure JournalFormat (β : Type) where
  encode : JournalLine β → String
  parse : Bytes → Except JsonError (JournalLine β)

/-- A journal's path and read cap, with the libraries its reader uses. -/
structure JournalReader (β : Type) where
  format : JournalFormat β
  parseUuid : String → Bool
  path : String
  readCap : ℕ

/-- The journal at its path. A file that is not a secure regular one is refused. -/
inductive JournalFile where
  | missing
  | refused (detail : String)
  | regular (bytes : Bytes)

/-- How the atomic write of a repaired journal ends. -/
inductive RepairWrite where
  | done
  | failed (detail : String) (committed : Bool)

def JOURNAL_SCHEMA : UInt32 := 2

def HOST_OPERATION_KINDS : List String :=
  ["hello", "ping", "state-inspect", "state-mutate", "control-operation", "state-list",
    "admin-create", "runtime-logs", "journal-read", "backup-snapshot", "backup-restore-test",
    "backup-recover", "backup-recovery-candidate-stage", "backup-recovery-candidate-control",
    "backup-recovery-candidate-cleanup", "backup-recovery-activate", "backup-export-prepare",
    "backup-import-prepare", "backup-transfer-read", "backup-transfer-write",
    "backup-import-finalize", "backup-offhost-record", "backup-transfer-cleanup"]

/-- An error that carries the stable code. -/
def journalInvalid (detail : String) : String := "TARGET_JOURNAL_INVALID: " ++ detail

def Invalid (error : String) : Prop := ∃ detail, error = journalInvalid detail

variable {β : Type}

/-! ## One entry -/

def hashLegal (hash : String) : Bool :=
  hash.utf8ByteSize = 64 && hash.toList.all fun c => c.isDigit || (97 ≤ c.toNat && c.toNat ≤ 102)

/-- A terminal line carries its own result. Only the completed read of a transfer may omit it. -/
def statusLegal (entry : JournalLine β) : Bool :=
  match entry.status, entry.result with
  | .pending, result => result.isNone
  | .completed, none => entry.action = "backup-transfer-read"
  | .failed, none => false
  | .completed, some result => result.operationId = entry.operationId
  | .failed, some result => result.operationId = entry.operationId

def validateEntry (parseUuid : String → Bool) (entry : JournalLine β) (lineNumber : ℕ) :
    Except String Unit :=
  if entry.schema ≠ JOURNAL_SCHEMA then
    .error (journalInvalid
      s!"journal line {lineNumber} carries schema {entry.schema} (expected {JOURNAL_SCHEMA})")
  else if ¬ parseUuid entry.operationId then
    .error (journalInvalid s!"journal line {lineNumber} has a malformed operation_id")
  else if ¬ hashLegal entry.operationHash then
    .error (journalInvalid s!"journal line {lineNumber} has a malformed operation_hash")
  else if entry.action ∉ HOST_OPERATION_KINDS then
    .error (journalInvalid
      s!"journal line {lineNumber} carries unknown action '{sanitize entry.action}'")
  else if statusLegal entry then .ok ()
  else if entry.status = .pending then
    .error (journalInvalid s!"pending journal line {lineNumber} must not carry a result")
  else .error (journalInvalid s!"terminal journal line {lineNumber} must carry its own result")

structure Valid (parseUuid : String → Bool) (entry : JournalLine β) : Prop where
  schema : entry.schema = JOURNAL_SCHEMA
  operationId : parseUuid entry.operationId
  operationHash : hashLegal entry.operationHash
  action : entry.action ∈ HOST_OPERATION_KINDS
  status : statusLegal entry

theorem validateEntry_valid {parseUuid : String → Bool} {entry : JournalLine β}
    (valid : Valid parseUuid entry) (lineNumber : ℕ) :
    validateEntry parseUuid entry lineNumber = .ok () := by
  have schema := valid.schema
  have action := valid.action
  rw [validateEntry, if_neg (not_not.mpr schema), if_neg (not_not.mpr valid.operationId),
    if_neg (not_not.mpr valid.operationHash), if_neg (not_not.mpr action), if_pos valid.status]

theorem validateEntry_invalid {parseUuid : String → Bool} {entry : JournalLine β}
    (invalid : ¬ Valid parseUuid entry) (lineNumber : ℕ) :
    ∃ error, validateEntry parseUuid entry lineNumber = .error error ∧ Invalid error := by
  rw [validateEntry]
  by_cases schema : entry.schema = JOURNAL_SCHEMA
  · rw [if_neg (not_not.mpr schema)]
    by_cases operationId : parseUuid entry.operationId
    · rw [if_neg (not_not.mpr operationId)]
      by_cases operationHash : hashLegal entry.operationHash
      · rw [if_neg (not_not.mpr operationHash)]
        by_cases action : entry.action ∈ HOST_OPERATION_KINDS
        · rw [if_neg (not_not.mpr action)]
          by_cases status : statusLegal entry
          · exact absurd ⟨schema, operationId, operationHash, action, status⟩ invalid
          · rw [if_neg status]
            split_ifs
            · exact ⟨_, rfl, _, rfl⟩
            · exact ⟨_, rfl, _, rfl⟩
        · rw [if_pos action]
          exact ⟨_, rfl, _, rfl⟩
      · rw [if_pos operationHash]
        exact ⟨_, rfl, _, rfl⟩
    · rw [if_pos operationId]
      exact ⟨_, rfl, _, rfl⟩
  · rw [if_pos schema]
    exact ⟨_, rfl, _, rfl⟩

/-! ## Records of a text -/

/-- `str::lines` without the removal of carriage returns. -/
def splitLines : Bytes → List Bytes
  | [] => []
  | byte :: rest =>
    if byte = newline then [] :: splitLines rest
    else match splitLines rest with
      | [] => [[byte]]
      | record :: records => (byte :: record) :: records

def stripCarriageReturn (record : Bytes) : Bytes :=
  if record.getLast? = some carriageReturn then record.dropLast else record

/-- Records with the newline behind each. -/
def terminated (records : List Bytes) : Bytes := records.flatMap fun record => record ++ [newline]

/-- Empty, or with a newline at the end. -/
def Complete (bytes : Bytes) : Prop := bytes = [] ∨ ∃ before, bytes = before ++ [newline]

theorem terminated_cons (record : Bytes) (records : List Bytes) :
    terminated (record :: records) = record ++ newline :: terminated records := by
  simp [terminated]

theorem terminated_complete (records : List Bytes) : Complete (terminated records) := by
  induction records with
  | nil => exact .inl rfl
  | cons record records ih =>
    rw [terminated_cons]
    cases ih with
    | inl none => exact .inr ⟨record, by rw [none]⟩
    | inr some =>
      obtain ⟨before, ends⟩ := some
      exact .inr ⟨record ++ newline :: before, by simp [ends]⟩

theorem splitLines_append (record rest : Bytes) (whole : newline ∉ record) :
    splitLines (record ++ newline :: rest) = record :: splitLines rest := by
  induction record with
  | nil => simp [splitLines]
  | cons byte record ih =>
    obtain ⟨first, others⟩ := not_or.mp (List.mem_cons.not.mp whole)
    rw [List.cons_append, splitLines, if_neg (Ne.symm first), ih others]

theorem splitLines_ne_nil (byte : UInt8) (rest : Bytes) : splitLines (byte :: rest) ≠ [] := by
  rw [splitLines]
  split_ifs
  · simp
  · cases splitLines rest with
    | nil => simp
    | cons _ _ => simp

theorem splitLines_newline (before rest : Bytes) :
    splitLines (before ++ newline :: rest) =
      splitLines (before ++ [newline]) ++ splitLines rest := by
  induction before with
  | nil => simp [splitLines]
  | cons byte before ih =>
    rw [List.cons_append, List.cons_append, splitLines, splitLines, ih]
    by_cases first : byte = newline
    · rw [if_pos first, if_pos first]
      rfl
    · rw [if_neg first, if_neg first]
      cases lines : splitLines (before ++ [newline]) with
      | nil =>
        cases before with
        | nil => exact absurd lines (splitLines_ne_nil newline [])
        | cons second before => exact absurd lines (splitLines_ne_nil second _)
      | cons record records => rfl

theorem splitLines_complete {before : Bytes} (complete : Complete before) (rest : Bytes) :
    splitLines (before ++ rest) = splitLines before ++ splitLines rest := by
  cases complete with
  | inl none => rw [none]; rfl
  | inr some =>
    obtain ⟨start, ends⟩ := some
    rw [ends, List.append_assoc]
    exact splitLines_newline start rest

theorem splitLines_terminated {records : List Bytes}
    (whole : ∀ record ∈ records, newline ∉ record) :
    splitLines (terminated records) = records := by
  induction records with
  | nil => rfl
  | cons record records ih =>
    rw [terminated_cons, splitLines_append record _ (whole record (by simp)),
      ih fun other member => whole other (by simp [member])]


/-! ## The reader -/

def isUtf8 (bytes : Bytes) : Bool := (ByteArray.mk bytes.toArray).validateUTF8

section reader

variable (reader : JournalReader β)

def readEntry (lineNumber : ℕ) (record : Bytes) : Except String (JournalLine β) :=
  if record = [] then
    .error (journalInvalid s!"blank journal line {lineNumber} ({reader.path})")
  else
    match reader.format.parse record with
    | .error error =>
      .error (journalInvalid s!"journal line {lineNumber} does not parse ({error.text})")
    | .ok entry =>
      match validateEntry reader.parseUuid entry lineNumber with
      | .error error => .error error
      | .ok () => .ok entry

def readEntries : ℕ → List Bytes → Except String (List (JournalLine β))
  | _, [] => .ok []
  | lineNumber, record :: records =>
    match readEntry reader lineNumber record with
    | .error error => .error error
    | .ok entry =>
      match readEntries (lineNumber + 1) records with
      | .error error => .error error
      | .ok entries => .ok (entry :: entries)

def readText (bytes : Bytes) : Except String (List (JournalLine β)) :=
  if isUtf8 bytes then readEntries reader 1 ((splitLines bytes).map stripCarriageReturn)
  else .error (journalInvalid s!"journal is not UTF-8 ({reader.path})")

/-- The bytes that are read as lines, and whether they differ from the file's. -/
def settleTail (bytes : Bytes) : Except String (Bytes × Bool) :=
  if bytes = [] ∨ bytes.getLast? = some newline then .ok (bytes, false)
  else
    match reader.format.parse (bytes.rtakeWhile (· ≠ newline)) with
    | .ok _ => .ok (bytes ++ [newline], true)
    | .error error =>
      if error.isEof then .ok (bytes.rdropWhile (· ≠ newline), true)
      else .error (journalInvalid s!"invalid final journal record ({error.text})")

/-- Only the exclusive writer repairs, after every complete record was validated. -/
def repair (repairTail : Bool) (write : RepairWrite) (bytes settled : Bytes) (tailChanged : Bool)
    (lines : List (JournalLine β)) : Except String (List (JournalLine β)) × JournalFile :=
  if tailChanged && repairTail then
    match write with
    | .done => (.ok lines, .regular settled)
    | .failed detail committed => (.error detail, .regular (if committed then settled else bytes))
  else (.ok lines, .regular bytes)

def readLinesWith (repairTail : Bool) (write : RepairWrite) :
    JournalFile → Except String (List (JournalLine β)) × JournalFile
  | .missing => (.ok [], .missing)
  | .refused detail => (.error detail, .refused detail)
  | .regular bytes =>
    if reader.readCap < bytes.length then
      (.error s!"target operation journal exceeds the {reader.readCap}-byte limit: {reader.path}",
        .regular bytes)
    else
      match settleTail reader bytes with
      | .error error => (.error error, .regular bytes)
      | .ok (settled, tailChanged) =>
        match readText reader settled with
        | .error error => (.error error, .regular bytes)
        | .ok lines => repair repairTail write bytes settled tailChanged lines

end reader

/-! ## What is asked of the JSON of a line -/

def JournalFormat.bytes (format : JournalFormat β) (line : JournalLine β) : Bytes :=
  (format.encode line).toByteArray.data.toList

/-- A compact object without control characters that reads back, and of which every proper
part ends too early. -/
structure JournalFormat.Faithful (format : JournalFormat β) (line : JournalLine β) : Prop where
  reads : format.parse (format.bytes line) = .ok line
  object : (format.bytes line).head? = some 123
  printable : ∀ byte ∈ format.bytes line, 32 ≤ byte
  torn : ∀ part, part <+: format.bytes line → part ≠ format.bytes line →
    ∃ error, format.parse part = .error error ∧ error.isEof

def JournalFormat.file (format : JournalFormat β) (lines : List (JournalLine β)) : Bytes :=
  terminated (lines.map format.bytes)

section format

variable {format : JournalFormat β} {line : JournalLine β}

theorem JournalFormat.Faithful.newline (faithful : format.Faithful line) :
    newline ∉ format.bytes line := by
  intro member
  exact absurd (faithful.printable _ member) (by decide)

theorem JournalFormat.Faithful.stripped (faithful : format.Faithful line) :
    stripCarriageReturn (format.bytes line) = format.bytes line := by
  rw [stripCarriageReturn]
  split_ifs with ends
  · exact absurd (faithful.printable _ (List.mem_of_getLast? ends)) (by decide)
  · rfl

theorem JournalFormat.Faithful.ne_nil (faithful : format.Faithful line) :
    format.bytes line ≠ [] := by
  intro empty
  have object := faithful.object
  rw [empty] at object
  cases object

theorem isUtf8_append {bytes bytes' : Bytes} (left : isUtf8 bytes) (right : isUtf8 bytes') :
    isUtf8 (bytes ++ bytes') := by
  have both := (ByteArray.validateUTF8_eq_true_iff.mp left).append
    (ByteArray.validateUTF8_eq_true_iff.mp right)
  have same : ByteArray.mk (bytes ++ bytes').toArray =
      ByteArray.mk bytes.toArray ++ ByteArray.mk bytes'.toArray := by
    apply ByteArray.ext
    simp
  rw [isUtf8, same]
  exact ByteArray.validateUTF8_eq_true_iff.mpr both

theorem isUtf8_bytes (format : JournalFormat β) (line : JournalLine β) :
    isUtf8 (format.bytes line) := by
  rw [isUtf8, JournalFormat.bytes]
  exact ByteArray.validateUTF8_eq_true_iff.mpr (format.encode line).isValidUTF8

theorem isUtf8_file (format : JournalFormat β) (lines : List (JournalLine β)) :
    isUtf8 (format.file lines) := by
  induction lines with
  | nil =>
    show isUtf8 [] = true
    decide
  | cons line lines ih =>
    have same : format.file (line :: lines) =
        format.bytes line ++ ([newline] ++ format.file lines) := by
      simp [JournalFormat.file, terminated]
    rw [same]
    exact isUtf8_append (isUtf8_bytes format line) (isUtf8_append (by decide) ih)

end format

/-! ## Where the tail of a file begins -/

section tail

variable {before tail : Bytes}

theorem rtakeWhile_tail (complete : Complete before) (unbroken : newline ∉ tail) :
    (before ++ tail).rtakeWhile (· ≠ newline) = tail := by
  induction tail using List.reverseRecOn with
  | nil =>
    rw [List.append_nil]
    cases complete with
    | inl none => rw [none]; rfl
    | inr some =>
      obtain ⟨start, ends⟩ := some
      rw [ends, List.rtakeWhile_concat]
      rfl
  | append_singleton tail byte ih =>
    have inside : newline ∉ tail := fun member => unbroken (by simp [member])
    have last : byte ≠ newline := fun same => unbroken (by simp [same])
    rw [← List.append_assoc, List.rtakeWhile_concat, ih inside]
    simp [last]

theorem rdropWhile_tail (complete : Complete before) (unbroken : newline ∉ tail) :
    (before ++ tail).rdropWhile (· ≠ newline) = before := by
  induction tail using List.reverseRecOn with
  | nil =>
    rw [List.append_nil]
    cases complete with
    | inl none => rw [none]; rfl
    | inr some =>
      obtain ⟨start, ends⟩ := some
      rw [ends, List.rdropWhile_concat]
      rfl
  | append_singleton tail byte ih =>
    have inside : newline ∉ tail := fun member => unbroken (by simp [member])
    have last : byte ≠ newline := fun same => unbroken (by simp [same])
    rw [← List.append_assoc, List.rdropWhile_concat, ih inside]
    simp [last]

/-- What stands up to a newline is not dropped. -/
theorem rdropWhile_newline (before after : Bytes) :
    (before ++ newline :: after).rdropWhile (· ≠ newline) =
      before ++ newline :: after.rdropWhile (· ≠ newline) := by
  induction after using List.reverseRecOn with
  | nil =>
    rw [List.rdropWhile_concat]
    rfl
  | append_singleton after byte ih =>
    have same : before ++ newline :: (after ++ [byte]) = (before ++ newline :: after) ++ [byte] := by
      simp
    rw [same, List.rdropWhile_concat, List.rdropWhile_concat, ih]
    split_ifs
    · rfl
    · simp

theorem unfinished_tail (nonempty : tail ≠ []) (unbroken : newline ∉ tail) :
    ¬ (before ++ tail = [] ∨ (before ++ tail).getLast? = some newline) := by
  rintro (empty | ends)
  · exact nonempty (List.append_eq_nil_iff.mp empty).2
  · rw [List.getLast?_append_of_ne_nil _ nonempty] at ends
    exact unbroken (List.mem_of_getLast? ends)

theorem finished (complete : Complete before) :
    before = [] ∨ before.getLast? = some newline := by
  cases complete with
  | inl none => exact .inl none
  | inr some =>
    obtain ⟨start, ends⟩ := some
    exact .inr (by rw [ends, List.getLast?_concat])

end tail


/-! ## Valid lines -/

section valid

variable {reader : JournalReader β}

/-- A line that its reader accepts and gets back from the file. -/
structure JournalReader.Accepts (reader : JournalReader β) (line : JournalLine β) : Prop where
  valid : Valid reader.parseUuid line
  faithful : reader.format.Faithful line

theorem readEntry_accepts {line : JournalLine β} (accepts : reader.Accepts line)
    (lineNumber : ℕ) :
    readEntry reader lineNumber (reader.format.bytes line) = .ok line := by
  rw [readEntry, if_neg accepts.faithful.ne_nil, accepts.faithful.reads]
  dsimp only
  rw [validateEntry_valid accepts.valid]

theorem readEntries_accepts {lines : List (JournalLine β)}
    (accepts : ∀ line ∈ lines, reader.Accepts line) (lineNumber : ℕ) :
    readEntries reader lineNumber (lines.map reader.format.bytes) = .ok lines := by
  induction lines generalizing lineNumber with
  | nil => rfl
  | cons line lines ih =>
    rw [List.map_cons, readEntries, readEntry_accepts (accepts line (by simp))]
    dsimp only
    rw [ih fun other member => accepts other (by simp [member])]

theorem readText_file {lines : List (JournalLine β)}
    (accepts : ∀ line ∈ lines, reader.Accepts line) :
    readText reader (reader.format.file lines) = .ok lines := by
  have split : splitLines (reader.format.file lines) = lines.map reader.format.bytes := by
    apply splitLines_terminated
    intro record member
    obtain ⟨line, listed, rfl⟩ := List.mem_map.mp member
    exact (accepts line listed).faithful.newline
  have strip : (lines.map reader.format.bytes).map stripCarriageReturn =
      lines.map reader.format.bytes := by
    rw [List.map_map]
    apply List.map_congr_left
    intro line listed
    exact (accepts line listed).faithful.stripped
  rw [readText, if_pos (isUtf8_file reader.format lines), split, strip,
    readEntries_accepts accepts]

theorem file_complete (format : JournalFormat β) (lines : List (JournalLine β)) :
    Complete (format.file lines) := terminated_complete _

theorem file_append (format : JournalFormat β) (lines : List (JournalLine β))
    (line : JournalLine β) :
    format.file (lines ++ [line]) = format.file lines ++ format.bytes line ++ [newline] := by
  simp [JournalFormat.file, terminated]

theorem settleTail_finished {bytes : Bytes} (complete : Complete bytes) :
    settleTail reader bytes = .ok (bytes, false) := by
  rw [settleTail, if_pos (finished complete)]

/-- A proper part of a line behind complete ones is dropped. -/
theorem settleTail_part {before part : Bytes} {line : JournalLine β}
    (complete : Complete before) (faithful : reader.format.Faithful line)
    (start : part <+: reader.format.bytes line) (proper : part ≠ reader.format.bytes line) :
    ∃ tailChanged, settleTail reader (before ++ part) = .ok (before, tailChanged) ∧
      (tailChanged = false → before ++ part = before) := by
  by_cases empty : part = []
  · rw [empty, List.append_nil]
    exact ⟨false, settleTail_finished complete, fun _ => rfl⟩
  have whole : newline ∉ part := fun member => faithful.newline (start.subset member)
  obtain ⟨error, parsed, eof⟩ := faithful.torn part start proper
  refine ⟨true, ?_, by simp⟩
  rw [settleTail, if_neg (unfinished_tail empty whole), rtakeWhile_tail complete whole, parsed]
  dsimp only
  rw [if_pos eof, rdropWhile_tail complete whole]

/-- A whole line gets the newline it lacks. -/
theorem settleTail_whole {before : Bytes} {line : JournalLine β} (complete : Complete before)
    (faithful : reader.format.Faithful line) :
    settleTail reader (before ++ reader.format.bytes line) =
      .ok (before ++ reader.format.bytes line ++ [newline], true) := by
  rw [settleTail, if_neg (unfinished_tail faithful.ne_nil faithful.newline),
    rtakeWhile_tail complete faithful.newline, faithful.reads]

end valid

/-! ## What a read makes of a file -/

/-- Every reader gets the lines. The writer leaves the repaired file, which all read the same,
and the others leave the file as it was. -/
structure Recovers (reader : JournalReader β) (bytes : Bytes) (lines : List (JournalLine β))
    (repaired : Bytes) : Prop where
  writer : readLinesWith reader true .done (.regular bytes) = (.ok lines, .regular repaired)
  viewer : ∀ write, readLinesWith reader false write (.regular bytes) = (.ok lines, .regular bytes)
  again : ∀ repairTail write, readLinesWith reader repairTail write (.regular repaired) =
    (.ok lines, .regular repaired)

theorem recovers {reader : JournalReader β} {bytes repaired : Bytes}
    {lines : List (JournalLine β)} {tailChanged : Bool} (fits : bytes.length ≤ reader.readCap)
    (refits : repaired.length ≤ reader.readCap) (complete : Complete repaired)
    (settled : settleTail reader bytes = .ok (repaired, tailChanged))
    (same : tailChanged = false → bytes = repaired)
    (read : readText reader repaired = .ok lines) : Recovers reader bytes lines repaired where
  writer := by
    rw [readLinesWith, if_neg (Nat.not_lt.mpr fits), settled]
    dsimp only
    rw [read]
    dsimp only
    cases tailChanged with
    | false => rw [same rfl]; rfl
    | true => rfl
  viewer write := by
    rw [readLinesWith, if_neg (Nat.not_lt.mpr fits), settled]
    dsimp only
    rw [read]
    dsimp only
    simp [repair]
  again repairTail write := by
    rw [readLinesWith, if_neg (Nat.not_lt.mpr refits), settleTail_finished complete]
    dsimp only
    rw [read]
    dsimp only
    simp [repair]

/-! ## Complete records that are no valid line -/

section invalid

variable {reader : JournalReader β}

/-- What stands between two newlines parses as a valid line. -/
def ValidRecord (reader : JournalReader β) (record : Bytes) : Prop :=
  stripCarriageReturn record ≠ [] ∧
    ∃ line, reader.format.parse (stripCarriageReturn record) = .ok line ∧
      Valid reader.parseUuid line

theorem readEntry_invalid {record : Bytes} (invalid : ¬ ValidRecord reader record)
    (lineNumber : ℕ) :
    ∃ error, readEntry reader lineNumber (stripCarriageReturn record) = .error error ∧
      Invalid error := by
  rw [readEntry]
  by_cases blank : stripCarriageReturn record = []
  · rw [if_pos blank]
    exact ⟨_, rfl, _, rfl⟩
  · rw [if_neg blank]
    cases parsed : reader.format.parse (stripCarriageReturn record) with
    | error error => exact ⟨_, rfl, _, rfl⟩
    | ok line =>
      have refused : ¬ Valid reader.parseUuid line := by
        intro valid
        exact invalid ⟨blank, line, parsed, valid⟩
      obtain ⟨error, same, stable⟩ := validateEntry_invalid refused lineNumber
      refine ⟨error, ?_, stable⟩
      dsimp only
      rw [same]

theorem readEntry_error {record : Bytes} {lineNumber : ℕ} {error : String}
    (failed : readEntry reader lineNumber record = .error error) : Invalid error := by
  rw [readEntry] at failed
  split_ifs at failed with blank
  · exact ⟨_, (Except.error.inj failed).symm⟩
  cases parsed : reader.format.parse record with
  | error _ =>
    rw [parsed] at failed
    exact ⟨_, (Except.error.inj failed).symm⟩
  | ok line =>
    rw [parsed] at failed
    dsimp only at failed
    by_cases valid : Valid reader.parseUuid line
    · rw [validateEntry_valid valid] at failed
      cases failed
    · obtain ⟨other, same, stable⟩ := validateEntry_invalid valid lineNumber
      rw [same] at failed
      exact Except.error.inj failed ▸ stable

/-- The first record that is no valid line ends the read. -/
theorem readEntries_invalid {record : Bytes} (invalid : ¬ ValidRecord reader record)
    (before after : List Bytes) (lineNumber : ℕ) :
    ∃ error, readEntries reader lineNumber
        (before ++ stripCarriageReturn record :: after) = .error error ∧ Invalid error := by
  induction before generalizing lineNumber with
  | nil =>
    obtain ⟨error, failed, stable⟩ := readEntry_invalid invalid lineNumber
    refine ⟨error, ?_, stable⟩
    rw [List.nil_append, readEntries, failed]
  | cons first before ih =>
    rw [List.cons_append, readEntries]
    cases entry : readEntry reader lineNumber first with
    | error error => exact ⟨error, rfl, readEntry_error entry⟩
    | ok line =>
      obtain ⟨error, failed, stable⟩ := ih (lineNumber + 1)
      refine ⟨error, ?_, stable⟩
      dsimp only
      rw [failed]

theorem readText_invalid {before record : Bytes} (complete : Complete before)
    (whole : newline ∉ record) (invalid : ¬ ValidRecord reader record) (after : Bytes) :
    ∃ error, readText reader (before ++ (record ++ newline :: after)) = .error error ∧
      Invalid error := by
  rw [readText]
  split_ifs
  · rw [splitLines_complete complete, splitLines_append record after whole, List.map_append,
      List.map_cons]
    exact readEntries_invalid invalid _ _ _
  · exact ⟨_, rfl, _, rfl⟩

/-- The tail stands behind every complete record. -/
theorem settleTail_keeps (before record after : Bytes) :
    (∃ after' tailChanged, settleTail reader (before ++ (record ++ newline :: after)) =
        .ok (before ++ (record ++ newline :: after'), tailChanged)) ∨
      ∃ error, settleTail reader (before ++ (record ++ newline :: after)) = .error error ∧
        Invalid error := by
  rw [settleTail]
  split_ifs with done
  · exact .inl ⟨after, false, rfl⟩
  cases reader.format.parse
      ((before ++ (record ++ newline :: after)).rtakeWhile (· ≠ newline)) with
  | ok _ => exact .inl ⟨after ++ [newline], true, by simp⟩
  | error error =>
    dsimp only
    split_ifs
    · refine .inl ⟨after.rdropWhile (· ≠ newline), true, ?_⟩
      rw [← List.append_assoc before record, rdropWhile_newline, List.append_assoc]
    · exact .inr ⟨_, rfl, _, rfl⟩

theorem invalid_record_refused {before record after : Bytes} (complete : Complete before)
    (whole : newline ∉ record) (invalid : ¬ ValidRecord reader record)
    (fits : (before ++ (record ++ newline :: after)).length ≤ reader.readCap)
    (repairTail : Bool) (write : RepairWrite) :
    ∃ error, readLinesWith reader repairTail write
        (.regular (before ++ (record ++ newline :: after))) =
          (.error error, .regular (before ++ (record ++ newline :: after))) ∧ Invalid error := by
  rw [readLinesWith, if_neg (Nat.not_lt.mpr fits)]
  cases @settleTail_keeps β reader before record after with
  | inl settled =>
    obtain ⟨after', tailChanged, same⟩ := settled
    obtain ⟨error, failed, stable⟩ := readText_invalid complete whole invalid after'
    refine ⟨error, ?_, stable⟩
    rw [same]
    dsimp only
    rw [failed]
  | inr refused =>
    obtain ⟨error, same, stable⟩ := refused
    refine ⟨error, ?_, stable⟩
    rw [same]

end invalid

theorem oversized_refused {reader : JournalReader β} {bytes : Bytes}
    (above : reader.readCap < bytes.length) (repairTail : Bool) (write : RepairWrite) :
    ∃ error, readLinesWith reader repairTail write (.regular bytes) =
      (.error error, .regular bytes) := by
  rw [readLinesWith, if_pos above]
  exact ⟨_, rfl⟩

/-! ## Torn appends -/

theorem torn_appends_recovered {reader : JournalReader β} :
    (∀ (lines : List (JournalLine β)) (line : JournalLine β),
      (∀ entry ∈ lines ++ [line], reader.Accepts entry) →
      (reader.format.file (lines ++ [line])).length ≤ reader.readCap →
      (∀ part, part <+: reader.format.bytes line → part ≠ reader.format.bytes line →
        Recovers reader (reader.format.file lines ++ part) lines (reader.format.file lines)) ∧
      Recovers reader (reader.format.file lines ++ reader.format.bytes line) (lines ++ [line])
        (reader.format.file (lines ++ [line]))) ∧
    ∀ before record after : Bytes, Complete before → newline ∉ record →
      ¬ ValidRecord reader record →
      (before ++ (record ++ newline :: after)).length ≤ reader.readCap →
      ∀ repairTail write, ∃ error, readLinesWith reader repairTail write
        (.regular (before ++ (record ++ newline :: after))) =
          (.error error, .regular (before ++ (record ++ newline :: after))) ∧ Invalid error := by
  constructor
  · intro lines line accepts fits
    have accepted : ∀ entry ∈ lines, reader.Accepts entry := by
      intro entry member
      exact accepts entry (by simp [member])
    have faithful := (accepts line (by simp)).faithful
    have complete := file_complete reader.format lines
    have size : (reader.format.file lines).length + (reader.format.bytes line).length + 1 ≤
        reader.readCap := by
      rw [file_append] at fits
      simpa [Nat.add_assoc] using fits
    constructor
    · intro part start proper
      obtain ⟨tailChanged, settled, same⟩ := settleTail_part complete faithful start proper
      have shorter := start.length_le
      exact recovers (by rw [List.length_append]; omega) (by omega) complete settled same
        (readText_file accepted)
    · have settled := settleTail_whole complete faithful
      rw [← file_append] at settled
      exact recovers (by rw [List.length_append]; omega) fits (file_complete _ _) settled
        (by simp) (readText_file accepts)
  · intro before record after complete whole invalid fits repairTail write
    exact invalid_record_refused complete whole invalid fits repairTail write

/-! ### A journal of one accepted ping -/

section sample

def samplePing : JournalLine Unit where
  schema := 2
  operationId := "018f0f6e-7c00-7000-8000-000000000001"
  operationHash := "abababababababababababababababababababababababababababababababab"
  action := "ping"
  recordedAt := 0
  status := .pending
  result := none

def samplePingText : String :=
  "\x7b\"schema\":2,\"operation_id\":\"018f0f6e-7c00-7000-8000-000000000001\"," ++
  "\"operation_hash\":\"abababababababababababababababababababababababababababababababab\"," ++
  "\"action\":\"ping\",\"recorded_at\":\"1970-01-01T00:00:00Z\",\"status\":\"pending\"\x7d"

def samplePingBytes : Bytes := samplePingText.toByteArray.data.toList

def sampleParse (bytes : Bytes) : Except JsonError (JournalLine Unit) :=
  if bytes = samplePingBytes then .ok samplePing
  else if bytes.isPrefixOf samplePingBytes then .error ⟨true, "EOF while parsing an object"⟩
  else .error ⟨false, "expected value"⟩

/-- Writes every line as the sample, and reads the sample and its parts. -/
def sampleFormat : JournalFormat Unit where
  encode _ := samplePingText
  parse := sampleParse

def sampleReader (readCap : ℕ) : JournalReader Unit where
  format := sampleFormat
  parseUuid text := text.length = 36
  path := "deployments/host/operations.jsonl"
  readCap := readCap

theorem sampleReader_bytes (readCap : ℕ) :
    (sampleReader readCap).format.bytes samplePing = samplePingBytes := by
  rw [JournalFormat.bytes, samplePingBytes]
  dsimp only [sampleReader, sampleFormat]

theorem sampleReader_parse (readCap : ℕ) (bytes : Bytes) :
    (sampleReader readCap).format.parse bytes = sampleParse bytes := rfl

set_option maxRecDepth 10000 in
theorem samplePing_object : samplePingBytes.head? = some 123 := by decide

set_option maxRecDepth 10000 in
theorem samplePing_printable : (samplePingBytes.all fun byte => 32 ≤ byte) = true := by
  decide

theorem sampleReader_accepts (readCap : ℕ) : (sampleReader readCap).Accepts samplePing where
  valid := by
    constructor
    · rfl
    · show decide (samplePing.operationId.length = 36) = true
      decide
    · decide
    · decide
    · rfl
  faithful := by
    constructor
    · rw [sampleReader_bytes, sampleReader_parse, sampleParse, if_pos rfl]
    · rw [sampleReader_bytes]
      exact samplePing_object
    · rw [sampleReader_bytes]
      intro byte member
      exact of_decide_eq_true (List.all_eq_true.mp samplePing_printable byte member)
    · rw [sampleReader_bytes]
      intro part start other
      have prefixed : part.isPrefixOf samplePingBytes := List.isPrefixOf_iff_prefix.mpr start
      refine ⟨⟨true, "EOF while parsing an object"⟩, ?_, rfl⟩
      rw [sampleReader_parse, sampleParse, if_neg other, if_pos prefixed]

def brokenRecord : Bytes := "\x7b not json".toByteArray.data.toList

theorem brokenRecord_invalid (readCap : ℕ) : ¬ ValidRecord (sampleReader readCap) brokenRecord := by
  have strip : stripCarriageReturn brokenRecord = brokenRecord := by decide
  have other : brokenRecord ≠ samplePingBytes := by decide
  have unlike : ¬ brokenRecord.isPrefixOf samplePingBytes := by decide
  rintro ⟨-, line, parsed, -⟩
  rw [strip, sampleReader_parse, sampleParse, if_neg other, if_neg unlike] at parsed
  cases parsed

/-- The sample is torn behind its first 200 bytes, and a broken record stands in its place. -/
theorem torn_appends_recovered_sample :
    Recovers (sampleReader 1024)
      (sampleFormat.file [samplePing] ++ samplePingBytes.take 200) [samplePing]
      (sampleFormat.file [samplePing]) ∧
    ∃ error, readLinesWith (sampleReader 1024) true .done
      (.regular ([] ++ (brokenRecord ++ newline :: []))) =
        (.error error, .regular ([] ++ (brokenRecord ++ newline :: []))) ∧ Invalid error := by
  have recovered := @torn_appends_recovered Unit (sampleReader 1024)
  constructor
  · have accepts : ∀ entry ∈ [samplePing] ++ [samplePing], (sampleReader 1024).Accepts entry := by
      intro entry member
      have same : entry = samplePing := by simpa using member
      rw [same]
      exact sampleReader_accepts 1024
    have fits : (sampleFormat.file ([samplePing] ++ [samplePing])).length ≤ 1024 := by
      decide +kernel
    have proper : samplePingBytes.take 200 ≠ samplePingBytes := by decide +kernel
    exact (recovered.1 [samplePing] samplePing accepts fits).1 _
      (List.take_prefix 200 samplePingBytes) proper
  · have whole : newline ∉ brokenRecord := by decide
    have fits : ([] ++ (brokenRecord ++ newline :: [])).length ≤ 1024 := by decide
    exact recovered.2 [] brokenRecord [] (.inl rfl) whole (brokenRecord_invalid 1024) fits true .done

/-- As many samples as there are bytes in the read cap. -/
def crowdedLines (readCap : ℕ) : List (JournalLine Unit) := List.replicate readCap samplePing

theorem crowdedLines_accepted (readCap : ℕ) :
    ∀ entry ∈ crowdedLines readCap ++ [samplePing], (sampleReader readCap).Accepts entry := by
  intro entry member
  have same : entry = samplePing := by
    cases List.mem_append.mp member with
    | inl listed => exact List.eq_of_mem_replicate listed
    | inr last => simpa using last
  rw [same]
  exact sampleReader_accepts readCap

theorem crowdedLines_oversized (readCap : ℕ) (some : 0 < readCap) :
    readCap < (sampleFormat.file (crowdedLines readCap) ++ []).length := by
  have size : (sampleFormat.file (crowdedLines readCap) ++ []).length =
      readCap * (samplePingBytes.length + 1) := by
    rw [List.append_nil, JournalFormat.file, terminated, crowdedLines, List.map_replicate,
      List.flatMap_replicate, List.length_flatten, List.map_replicate, List.sum_replicate_nat,
      List.length_append, ← sampleReader_bytes 0, List.length_singleton]
    dsimp only [sampleReader]
  have long : 0 < samplePingBytes.length := by decide +kernel
  rw [size, Nat.mul_succ]
  exact Nat.lt_add_of_pos_left (Nat.mul_pos some long)

theorem crowdedLines_refused (readCap : ℕ) (some : 0 < readCap) :
    ∃ error, readLinesWith (sampleReader readCap) true .done
      (.regular (sampleFormat.file (crowdedLines readCap) ++ [])) =
        (.error error, .regular (sampleFormat.file (crowdedLines readCap) ++ [])) :=
  oversized_refused (crowdedLines_oversized readCap some) true .done

theorem crowded_journal_refused :
    (∀ entry ∈ crowdedLines JournalBounds.default.readCap ++ [samplePing],
      (sampleReader JournalBounds.default.readCap).Accepts entry) ∧
    ∃ error, readLinesWith (sampleReader JournalBounds.default.readCap) true .done
      (.regular (sampleFormat.file (crowdedLines JournalBounds.default.readCap) ++ [])) =
        (.error error,
          .regular (sampleFormat.file (crowdedLines JournalBounds.default.readCap) ++ [])) :=
  ⟨crowdedLines_accepted _, crowdedLines_refused _ (by decide)⟩

end sample


end NazoAuthCtl.JournalTail
