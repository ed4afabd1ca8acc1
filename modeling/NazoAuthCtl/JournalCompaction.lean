import NazoAuthCtl.TargetState
import Mathlib.Algebra.GroupWithZero.Nat
import Mathlib.Data.List.Basic

/-!
# Lines and compaction of a target's operation journal

A line of the journal records that an operation was accepted or how it ended.
Once the file has outgrown its bound, `compact_lines` walks it from the newest
line to the oldest and keeps the unsettled entries and as many terminal lines as
two byte budgets and a count floor admit. The JSON encoding of a line is a
parameter. Executors answer under the id of the operation they were given, so a
result is its outcome here.
-/

set_option autoImplicit false
set_option linter.all false

namespace NazoAuthCtl.JournalCompaction

open TargetState

inductive HostOperationKind where
  | hello
  | ping
  | stateInspect
  | stateMutate
  | controlOperation
  | stateList
  | adminCreate
  | runtimeLogs
  | journalRead
  | backupSnapshot
  | backupRestoreTest
  | backupRecover
  | backupRecoveryCandidateStage
  | backupRecoveryCandidateControl
  | backupRecoveryCandidateCleanup
  | backupRecoveryActivate
  | backupExportPrepare
  | backupImportPrepare
  | backupTransferRead
  | backupTransferWrite
  | backupImportFinalize
  | backupOffhostRecord
  | backupTransferCleanup
  deriving DecidableEq, Repr

/-- A completion; only the no-op of a mutation means something to the journal. -/
inductive HostCompletionBody (β : Type) where
  | stateMutateNoop (revision : ℕ)
  | other (body : β)
  deriving DecidableEq, Repr

inductive HostOutcome (β : Type) where
  | completed (body : HostCompletionBody β)
  | failed (code : String) (detail : String)
  deriving DecidableEq, Repr

inductive JournalStatus where
  | pending
  | completed
  | failed
  deriving DecidableEq, Repr

structure JournalLine (β : Type) where
  operationId : OperationId
  operationHash : Digest
  action : HostOperationKind
  recordedAt : ℤ
  status : JournalStatus
  result : Option (HostOutcome β)
  deriving DecidableEq, Repr

structure JournalBounds where
  maxBytes : ℕ
  maxPendingBytes : ℕ
  targetBytes : ℕ
  minTerminalRetained : ℕ
  readCap : ℕ
  deriving DecidableEq, Repr

/-- `JournalBounds::default`. -/
def JournalBounds.default : JournalBounds where
  maxBytes := 16 * 1024 * 1024
  maxPendingBytes := 8 * 1024 * 1024
  targetBytes := 8 * 1024 * 1024
  minTerminalRetained := 128
  readCap := 32 * 1024 * 1024

variable {β : Type}

/-- `validate_entry`. -/
def validateEntry (line : JournalLine β) : Bool :=
  match line.status with
  | .pending => line.result.isNone
  | .completed => line.result.isSome || line.action = .backupTransferRead
  | .failed => line.result.isSome

/-- The last line of an operation, if the journal holds one. -/
def latest (lines : List (JournalLine β)) (operation : OperationId) : Option (JournalLine β) :=
  lines.reverse.find? fun line => line.operationId = operation

section encoding

variable (encode : JournalLine β → Bytes)

def lineBytes (line : JournalLine β) : Bytes := encode line ++ [10]

def lineSize (line : JournalLine β) : ℕ := (lineBytes encode line).length

def totalSize (lines : List (JournalLine β)) : ℕ := (lines.map (lineSize encode)).sum

/-- The unsettled entries of a journal, newest line first: the newest line of an operation
where that line is pending. -/
def unsettled : List OperationId → List (JournalLine β) → List (JournalLine β)
  | _, [] => []
  | seen, line :: older =>
    if line.operationId ∉ seen ∧ line.status = .pending
      then line :: unsettled (line.operationId :: seen) older
      else unsettled (line.operationId :: seen) older

/-- The first pass of `compact_lines`: what the unsettled entries leave of the hard budget. -/
def reservePending : List OperationId → ℕ → List (JournalLine β) → ℕ
  | _, hardBudget, [] => hardBudget
  | seen, hardBudget, line :: older =>
    reservePending (line.operationId :: seen)
      (if line.operationId ∉ seen ∧ line.status = .pending
        then hardBudget - lineSize encode line else hardBudget) older

structure Budgets where
  budget : ℕ
  hardBudget : ℕ
  retainedTerminals : ℕ
  deriving DecidableEq, Repr

def Budgets.admits (bounds : JournalBounds) (budgets : Budgets) (size : ℕ) : Prop :=
  size ≤ budgets.hardBudget ∧
    (budgets.retainedTerminals < bounds.minTerminalRetained ∨ size ≤ budgets.budget)

instance (bounds : JournalBounds) (budgets : Budgets) (size : ℕ) :
    Decidable (budgets.admits bounds size) :=
  inferInstanceAs (Decidable (_ ∧ _))

def Budgets.spend (budgets : Budgets) (size : ℕ) : Budgets where
  budget := budgets.budget - size
  hardBudget := budgets.hardBudget - size
  retainedTerminals := budgets.retainedTerminals + 1

/-- The second pass of `compact_lines`, newest line first. It sets the bits of pending lines
again, to what the first pass set them to. -/
def selectLines (bounds : JournalBounds) :
    List OperationId → Budgets → List (JournalLine β) → List Bool
  | _, _, [] => []
  | seen, budgets, line :: older =>
    if line.status = .pending then
      decide (line.operationId ∉ seen) ::
        selectLines bounds (line.operationId :: seen) budgets older
    else if budgets.admits bounds (lineSize encode line) then
      true :: selectLines bounds (line.operationId :: seen)
        (budgets.spend (lineSize encode line)) older
    else
      false :: selectLines bounds (line.operationId :: seen) budgets older

/-- The encoded lines one after the other, and the range of each. -/
def encodeLines : Bytes → List (JournalLine β) → Bytes × List (ℕ × ℕ)
  | bytes, [] => (bytes, [])
  | bytes, line :: newer =>
    let encoded := encodeLines (bytes ++ lineBytes encode line) newer
    (encoded.1, (bytes.length, bytes.length + lineSize encode line) :: encoded.2)

/-- `copy_within`. -/
def copyWithin (bytes : Bytes) (range : ℕ × ℕ) (dest : ℕ) : Bytes :=
  let moved := (bytes.drop range.1).take (range.2 - range.1)
  bytes.take dest ++ moved ++ bytes.drop (dest + moved.length)

/-- The retained ranges moved to the front of the buffer, and the rest cut off. -/
def moveRetained : Bytes → ℕ → List (Bool × (ℕ × ℕ)) → Bytes
  | bytes, retainedBytes, [] => bytes.take retainedBytes
  | bytes, retainedBytes, (true, range) :: rest =>
    moveRetained (copyWithin bytes range retainedBytes)
      (retainedBytes + (range.2 - range.1)) rest
  | bytes, retainedBytes, (false, _) :: rest => moveRetained bytes retainedBytes rest

def retain : List Bool → List (JournalLine β) → List (JournalLine β)
  | true :: mask, line :: lines => line :: retain mask lines
  | false :: mask, _ :: lines => retain mask lines
  | _, _ => []

def initialBudgets (bounds : JournalBounds) (lines : List (JournalLine β)) : Budgets where
  budget := bounds.targetBytes
  hardBudget := reservePending encode [] bounds.maxBytes lines.reverse
  retainedTerminals := 0

def retentionMask (bounds : JournalBounds) (lines : List (JournalLine β)) : List Bool :=
  (selectLines encode bounds [] (initialBudgets encode bounds lines) lines.reverse).reverse

/-- `compact_lines`: the lines kept and the bytes that are to replace the file. -/
def compactLines (bounds : JournalBounds) (lines : List (JournalLine β)) :
    List (JournalLine β) × Bytes :=
  let mask := retentionMask encode bounds lines
  let encoded := encodeLines encode [] lines
  (retain mask lines, moveRetained encoded.1 0 (mask.zip encoded.2))

end encoding

section bytes

variable (encode : JournalLine β → Bytes)

theorem encodeLines_bytes (bytes : Bytes) (lines : List (JournalLine β)) :
    (encodeLines encode bytes lines).1 = bytes ++ lines.flatMap (lineBytes encode) := by
  induction lines generalizing bytes with
  | nil => simp [encodeLines]
  | cons line newer ih => simp [encodeLines, ih]

/-- Moving a chunk down to the end of what is already in place leaves a gap of the same size. -/
theorem copyWithin_chunk (done gap chunk rest : Bytes) :
    copyWithin (done ++ (gap ++ (chunk ++ rest)))
        (done.length + gap.length, done.length + gap.length + chunk.length) done.length =
      (done ++ chunk) ++ ((gap ++ chunk).drop chunk.length ++ rest) := by
  have moved : ((done ++ (gap ++ (chunk ++ rest))).drop (done.length + gap.length)).take
      (done.length + gap.length + chunk.length - (done.length + gap.length)) = chunk := by
    rw [List.drop_length_add_append, List.drop_left, Nat.add_sub_cancel_left, List.take_left]
  have tail : (done ++ (gap ++ (chunk ++ rest))).drop (done.length + chunk.length) =
      (gap ++ chunk).drop chunk.length ++ rest := by
    rw [List.drop_length_add_append, ← List.append_assoc gap,
      List.drop_append_of_le_length (by simp)]
  simp only [copyWithin, moved, tail, List.take_left, List.append_assoc]

theorem moveRetained_eq (mask : List Bool) (lines : List (JournalLine β)) (done gap start : Bytes)
    (fits : mask.length = lines.length) (starts : start.length = done.length + gap.length) :
    moveRetained (done ++ (gap ++ lines.flatMap (lineBytes encode))) done.length
        (mask.zip (encodeLines encode start lines).2) =
      done ++ (retain mask lines).flatMap (lineBytes encode) := by
  induction lines generalizing mask done gap start with
  | nil =>
    obtain rfl := List.length_eq_zero_iff.mp fits
    simp [moveRetained, retain]
  | cons line newer ih =>
    obtain ⟨keep, mask, rfl⟩ := List.exists_cons_of_length_eq_add_one fits
    have rest : mask.length = newer.length := by simpa using fits
    cases keep with
    | true =>
      have next := ih mask (done ++ lineBytes encode line)
        ((gap ++ lineBytes encode line).drop (lineBytes encode line).length)
        (start ++ lineBytes encode line) rest (by simp [starts]; omega)
      simp only [encodeLines, List.zip_cons_cons, moveRetained, List.flatMap_cons, retain,
        lineSize, starts, copyWithin_chunk, Nat.add_sub_cancel_left]
      simpa using next
    | false =>
      have next := ih mask done (gap ++ lineBytes encode line) (start ++ lineBytes encode line)
        rest (by simp [starts]; omega)
      simpa [encodeLines, moveRetained, retain] using next

end bytes

section selection

variable (encode : JournalLine β → Bytes) (bounds : JournalBounds)

@[simp] theorem selectLines_length (seen : List OperationId) (budgets : Budgets)
    (lines : List (JournalLine β)) :
    (selectLines encode bounds seen budgets lines).length = lines.length := by
  induction lines generalizing seen budgets with
  | nil => rfl
  | cons line older ih =>
    rw [selectLines]
    split_ifs <;> simp [ih]

theorem retain_sublist (mask : List Bool) (lines : List (JournalLine β)) :
    (retain mask lines).Sublist lines := by
  induction lines generalizing mask with
  | nil => cases mask with
    | nil => exact .slnil
    | cons keep mask => cases keep <;> exact .slnil
  | cons line newer ih =>
    cases mask with
    | nil => exact List.nil_sublist _
    | cons keep mask =>
      cases keep with
      | true => exact (ih mask).cons_cons line
      | false => exact (ih mask).cons line

theorem retain_append (mask mask' : List Bool) (lines lines' : List (JournalLine β))
    (fits : mask.length = lines.length) :
    retain (mask ++ mask') (lines ++ lines') = retain mask lines ++ retain mask' lines' := by
  induction lines generalizing mask with
  | nil =>
    obtain rfl := List.length_eq_zero_iff.mp fits
    rfl
  | cons line newer ih =>
    obtain ⟨keep, mask, rfl⟩ := List.exists_cons_of_length_eq_add_one fits
    have rest := ih mask (by simpa using fits)
    cases keep <;> simp [retain, rest]

theorem retain_reverse (mask : List Bool) (lines : List (JournalLine β))
    (fits : mask.length = lines.length) :
    retain mask.reverse lines.reverse = (retain mask lines).reverse := by
  induction lines generalizing mask with
  | nil =>
    obtain rfl := List.length_eq_zero_iff.mp fits
    rfl
  | cons line newer ih =>
    obtain ⟨keep, mask, rfl⟩ := List.exists_cons_of_length_eq_add_one fits
    have same : mask.length = newer.length := by simpa using fits
    rw [List.reverse_cons, List.reverse_cons, retain_append _ _ _ _ (by simp [same]), ih mask same]
    cases keep <;> simp [retain]

/-- The lines the second pass keeps, newest first. -/
def selected (seen : List OperationId) (budgets : Budgets) (lines : List (JournalLine β)) :
    List (JournalLine β) :=
  retain (selectLines encode bounds seen budgets lines) lines

@[simp] theorem selected_nil (seen : List OperationId) (budgets : Budgets) :
    selected encode bounds seen budgets [] = [] := rfl

theorem selected_cons (seen : List OperationId) (budgets : Budgets) (line : JournalLine β)
    (older : List (JournalLine β)) :
    selected encode bounds seen budgets (line :: older) =
      if line.status = .pending then
        if line.operationId ∈ seen then
          selected encode bounds (line.operationId :: seen) budgets older
        else line :: selected encode bounds (line.operationId :: seen) budgets older
      else if budgets.admits bounds (lineSize encode line) then
        line :: selected encode bounds (line.operationId :: seen)
          (budgets.spend (lineSize encode line)) older
      else selected encode bounds (line.operationId :: seen) budgets older := by
  rw [selected, selectLines]
  split_ifs with pending settled room
  · simp [retain, selected, settled]
  · simp [retain, selected, settled]
  · rfl
  · rfl

/-- A line that found no room is larger than every terminal line kept after it. -/
theorem selected_smaller {size : ℕ} (seen : List OperationId) (budgets : Budgets)
    (lines : List (JournalLine β)) (full : ¬budgets.admits bounds size) :
    ∀ line ∈ selected encode bounds seen budgets lines,
      line.status ≠ .pending → lineSize encode line < size := by
  induction lines generalizing seen budgets with
  | nil => simp
  | cons line older ih =>
    rw [selected_cons]
    split_ifs with pending settled room
    · exact ih _ _ full
    · intro kept hkept terminal
      rcases List.mem_cons.mp hkept with rfl | hkept
      · exact absurd pending terminal
      · exact ih _ _ full kept hkept terminal
    · have smaller : lineSize encode line < size := by
        simp only [Budgets.admits] at full room
        omega
      have still : ¬(budgets.spend (lineSize encode line)).admits bounds size := by
        simp only [Budgets.admits, Budgets.spend] at full room ⊢
        omega
      intro kept hkept terminal
      rcases List.mem_cons.mp hkept with rfl | hkept
      · exact smaller
      · exact ih _ _ still kept hkept terminal
    · exact ih _ _ full

/-- Below its newest line no pending line of an operation is kept. -/
theorem selected_settled (operation : OperationId) (seen : List OperationId) (budgets : Budgets)
    (lines : List (JournalLine β)) (settled : operation ∈ seen) :
    ∀ line ∈ selected encode bounds seen budgets lines,
      line.operationId = operation → line.status ≠ .pending := by
  induction lines generalizing seen budgets with
  | nil => simp
  | cons line older ih =>
    have later := fun b => ih (line.operationId :: seen) b (List.mem_cons_of_mem _ settled)
    rw [selected_cons]
    split_ifs with pending older_seen room
    · exact later _
    · intro kept hkept same
      rcases List.mem_cons.mp hkept with rfl | hkept
      · exact absurd (same ▸ settled) older_seen
      · exact later _ kept hkept same
    · intro kept hkept same
      rcases List.mem_cons.mp hkept with rfl | hkept
      · exact pending
      · exact later _ kept hkept same
    · exact later _

/-- Either the newest line of an operation is kept, or it is terminal and whatever is kept of
the operation is terminal and smaller. -/
theorem selected_newest (operation : OperationId) (seen : List OperationId) (budgets : Budgets)
    (lines : List (JournalLine β)) (fresh : operation ∉ seen) :
    (selected encode bounds seen budgets lines).find? (fun line => line.operationId = operation) =
        lines.find? (fun line => line.operationId = operation) ∨
      ∃ line, lines.find? (fun line => line.operationId = operation) = some line ∧
        line.status ≠ .pending ∧
        ∀ kept ∈ selected encode bounds seen budgets lines, kept.operationId = operation →
          kept.status ≠ .pending ∧ lineSize encode kept < lineSize encode line := by
  induction lines generalizing seen budgets with
  | nil => simp
  | cons line older ih =>
    rw [selected_cons]
    by_cases same : line.operationId = operation
    · have newest : line.operationId ∉ seen := same ▸ fresh
      split_ifs with pending room
      · exact .inl (by simp [same])
      · exact .inl (by simp [same])
      · refine .inr ⟨line, by simp [same], pending, fun kept hkept kept_same => ?_⟩
        have terminal := selected_settled encode bounds operation (line.operationId :: seen) budgets
          older (by simp [same]) kept hkept kept_same
        exact ⟨terminal, selected_smaller encode bounds _ _ _ room kept hkept terminal⟩
    · have later := fun b => ih (line.operationId :: seen) b (by simp [Ne.symm same, fresh])
      split_ifs with pending settled room
      · simpa [same] using later budgets
      · simpa [same] using later budgets
      · simpa [same] using later _
      · simpa [same] using later budgets

end selection

theorem compactLines_lines (encode : JournalLine β → Bytes) (bounds : JournalBounds)
    (lines : List (JournalLine β)) :
    (compactLines encode bounds lines).1 =
      (selected encode bounds [] (initialBudgets encode bounds lines) lines.reverse).reverse := by
  have same := retain_reverse
    (selectLines encode bounds [] (initialBudgets encode bounds lines) lines.reverse)
    lines.reverse (by simp)
  rw [List.reverse_reverse] at same
  exact same

theorem compactLines_bytes (encode : JournalLine β → Bytes) (bounds : JournalBounds)
    (lines : List (JournalLine β)) :
    (compactLines encode bounds lines).2 =
      (compactLines encode bounds lines).1.flatMap (lineBytes encode) := by
  have moved := moveRetained_eq encode (retentionMask encode bounds lines) lines [] [] []
    (by simp [retentionMask]) rfl
  simpa [compactLines, encodeLines_bytes] using moved

/-- A compacted journal ends an operation on the line it ended on before, or on a shorter
terminal one. -/
theorem compactLines_latest (encode : JournalLine β → Bytes) (bounds : JournalBounds)
    (lines : List (JournalLine β)) (operation : OperationId) :
    latest (compactLines encode bounds lines).1 operation = latest lines operation ∨
      ∃ line, latest lines operation = some line ∧ line.status ≠ .pending ∧
        ∀ kept ∈ (compactLines encode bounds lines).1, kept.operationId = operation →
          kept.status ≠ .pending ∧ lineSize encode kept < lineSize encode line := by
  have newest := selected_newest encode bounds operation []
    (initialBudgets encode bounds lines) lines.reverse List.not_mem_nil
  simpa [latest, compactLines_lines] using newest

/-- A compaction that only forgets: every operation ends on the line it ended on before, or is
settled and gone. -/
structure OnlyForgets (encode : JournalLine β → Bytes) (bounds : JournalBounds)
    (lines : List (JournalLine β)) : Prop where
  latest : ∀ operation,
    latest (compactLines encode bounds lines).1 operation = latest lines operation ∨
      ∃ line, JournalCompaction.latest lines operation = some line ∧ line.status ≠ .pending ∧
        ∀ kept ∈ (compactLines encode bounds lines).1, kept.operationId ≠ operation
  pending : ∀ operation line, JournalCompaction.latest lines operation = some line →
    line.status = .pending →
      JournalCompaction.latest (compactLines encode bounds lines).1 operation = some line
  order : (compactLines encode bounds lines).1.Sublist lines
  bytes : (compactLines encode bounds lines).2 =
    (compactLines encode bounds lines).1.flatMap (lineBytes encode)

/-- What compaction does to the answers a journal holds. Where the newest line of an operation
is terminal and finds no room, shorter terminal lines of the same operation may outlive it. -/
theorem compaction_keeps_newest_or_shorter (encode : JournalLine β → Bytes)
    (bounds : JournalBounds) (lines : List (JournalLine β)) :
    (∀ operation,
      latest (compactLines encode bounds lines).1 operation = latest lines operation ∨
        ∃ line, latest lines operation = some line ∧ line.status ≠ .pending ∧
          ∀ kept ∈ (compactLines encode bounds lines).1, kept.operationId = operation →
            kept.status ≠ .pending ∧ lineSize encode kept < lineSize encode line) ∧
    (∀ operation line, latest lines operation = some line → line.status = .pending →
      latest (compactLines encode bounds lines).1 operation = some line) ∧
    (compactLines encode bounds lines).1.Sublist lines ∧
    (compactLines encode bounds lines).2 =
      (compactLines encode bounds lines).1.flatMap (lineBytes encode) := by
  refine ⟨compactLines_latest encode bounds lines, fun operation line hline pending => ?_,
    retain_sublist _ _, compactLines_bytes encode bounds lines⟩
  rcases compactLines_latest encode bounds lines operation with kept | ⟨line', hline', settled, -⟩
  · exact kept.trans hline
  · obtain rfl : line' = line := Option.some.inj (hline'.symm.trans hline)
    exact absurd pending settled

/-- A line as a header of eight bytes and the body it carries. -/
def headerAndBody (line : JournalLine Bytes) : Bytes :=
  List.replicate 8 0 ++ match line.result with
    | some (.completed (.other body)) => body
    | _ => []

/-- A recovery that failed and then completed when it was retried. -/
def retriedRecovery : List (JournalLine Bytes) :=
  [⟨1, 7, .backupRecover, 0, .pending, none⟩,
    ⟨1, 7, .backupRecover, 1, .failed, some (.failed "RESTORE_TEST_FAILED" "first")⟩,
    ⟨1, 7, .backupRecover, 2, .pending, none⟩,
    ⟨1, 7, .backupRecover, 3, .completed, some (.completed (.other [1, 2, 3, 4, 5, 6]))⟩]

/-- Room for the short failure, not for the long completion after it. -/
def tightBounds : JournalBounds where
  maxBytes := 12
  maxPendingBytes := 12
  targetBytes := 12
  minTerminalRetained := 2
  readCap := 100

theorem compaction_not_only_forgets :
    (∀ line ∈ retriedRecovery, validateEntry line = true) ∧
      ¬OnlyForgets headerAndBody tightBounds retriedRecovery := by
  refine ⟨by decide, fun h => ?_⟩
  rcases h.latest 1 with same | ⟨line, -, -, gone⟩
  · exact absurd same (by decide)
  · exact gone ⟨1, 7, .backupRecover, 1, .failed, some (.failed "RESTORE_TEST_FAILED" "first")⟩
      (by decide) rfl

end NazoAuthCtl.JournalCompaction
