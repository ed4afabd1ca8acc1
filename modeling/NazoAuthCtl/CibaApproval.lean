import NazoAuthCtl.JsonValue
import NazoAuthCtl.InstallRecognition

/-!
# Decisions of the CIBA driver

The Suite's log of a module announces authentication requests and marks the points where a
decision is wanted. A scan pairs each mark with the request announced last before it. The
driver scans the log again in every round while the module waits, and submits a decision for
each request that it has not decided yet. A round is what the surroundings answer in one turn
of the loop.
-/

set_option autoImplicit false
set_option linter.all false

namespace NazoAuthCtl.CibaApproval

open Checks JsonValue
open InstallRecognition (context context_ok)
open StateDocument (isControl)

def BACKCHANNEL_RESPONSE_SOURCE : String := "CallBackchannelAuthenticationEndpoint"
def AUTOMATED_APPROVAL_SOURCE : String := "CallAutomatedCibaApprovalEndpoint"

def malformedSuiteLog : String := "OIDF Suite CIBA log is malformed"

/-! ## The scan of a log -/

structure Scan where
  pendingAuthReqId : Option String
  authReqIds : List String
  deriving DecidableEq, Repr

section scan

-- `serde_json::from_str`.
variable (fromStr : String → Option Json)

def sourceOf (entry : Json) : Option String := (entry.get "src").bind Json.asString

def backchannelResponse (entry : Json) : Except String Json :=
  match entry.get "backchannel_authentication_endpoint_response" with
  | some (.string response) => context (fromStr response) malformedSuiteLog
  | some (.object members) => .ok (.object members)
  | some _ => .error malformedSuiteLog
  | none => .ok entry

def authReqId (entry : Json) : Except String (Option String) := do
  let response ← backchannelResponse fromStr entry
  match (response.get "auth_req_id").bind Json.asString with
  | none => .ok none
  | some id =>
    check (id ≠ "" ∧ id.utf8ByteSize ≤ 2048 ∧ ¬id.toList.any isControl) malformedSuiteLog
    .ok (some id)

def insertId (ids : List String) (id : String) : List String :=
  if id ∈ ids then ids else ids ++ [id]

def scanEntry (scan : Scan) (entry : Json) : Except String Scan :=
  if sourceOf entry = some AUTOMATED_APPROVAL_SOURCE then do
    let id ← context scan.pendingAuthReqId malformedSuiteLog
    .ok ⟨none, insertId scan.authReqIds id⟩
  else if sourceOf entry = some BACKCHANNEL_RESPONSE_SOURCE then do
    let announced ← authReqId fromStr entry
    .ok ⟨announced.or scan.pendingAuthReqId, scan.authReqIds⟩
  else .ok scan

def scanEntries (entries : List Json) : Except String Scan :=
  entries.foldlM (scanEntry fromStr) ⟨none, []⟩

def cibaApprovalRequests (rawLog : Json) : Except String (List String) := do
  let entries ← context rawLog.asArray malformedSuiteLog
  let scan ← scanEntries fromStr entries
  .ok scan.authReqIds

end scan

/-! ## What the Suite asked for -/

section asked

variable (fromStr : String → Option Json)

def Marks (entry : Json) : Prop := sourceOf entry = some AUTOMATED_APPROVAL_SOURCE

def Announces (entry : Json) (id : String) : Prop :=
  sourceOf entry = some BACKCHANNEL_RESPONSE_SOURCE ∧ authReqId fromStr entry = .ok (some id)

/-- The request announced last, with no mark behind it. -/
def Open (entries : List Json) (id : String) : Prop :=
  ∃ (j : ℕ) (entry : Json), entries[j]? = some entry ∧ Announces fromStr entry id ∧
    ∀ (k : ℕ) (later : Json), j < k → entries[k]? = some later →
      ¬Marks later ∧ ∀ other, ¬Announces fromStr later other

/-- The entry at a place asks for a decision on the request. -/
def Asks (entries : List Json) (i : ℕ) (id : String) : Prop :=
  (∃ entry, entries[i]? = some entry ∧ Marks entry) ∧ Open fromStr (entries.take i) id

end asked

section scanned

variable {fromStr : String → Option Json} {entries : List Json} {entry : Json} {id : String}

theorem marks_not_announces (marks : Marks entry) (id : String) :
    ¬Announces fromStr entry id := by
  intro announces
  have same : some AUTOMATED_APPROVAL_SOURCE = some BACKCHANNEL_RESPONSE_SOURCE :=
    marks.symm.trans announces.1
  exact absurd same (by decide)

theorem announces_same {other : String} (announces : Announces fromStr entry id)
    (announces' : Announces fromStr entry other) : id = other := by
  have same := announces.2.symm.trans announces'.2
  cases same
  rfl

/-- What one entry of a well-formed log does to the scan. -/
theorem scanEntry_cases {scan scan' : Scan} (scanned : scanEntry fromStr scan entry = .ok scan') :
    (∃ id, Marks entry ∧ scan.pendingAuthReqId = some id ∧
        scan' = ⟨none, insertId scan.authReqIds id⟩) ∨
      (∃ id, Announces fromStr entry id ∧ scan' = ⟨some id, scan.authReqIds⟩) ∨
      (¬Marks entry ∧ (∀ id, ¬Announces fromStr entry id) ∧ scan' = scan) := by
  unfold scanEntry at scanned
  by_cases marks : sourceOf entry = some AUTOMATED_APPROVAL_SOURCE
  · rw [if_pos marks, bind_ok] at scanned
    obtain ⟨id, pending, same⟩ := scanned
    cases same
    exact Or.inl ⟨id, marks, context_ok.mp pending, rfl⟩
  · rw [if_neg marks] at scanned
    by_cases response : sourceOf entry = some BACKCHANNEL_RESPONSE_SOURCE
    · rw [if_pos response, bind_ok] at scanned
      obtain ⟨announced, read, same⟩ := scanned
      cases same
      cases announced with
      | some id => exact Or.inr (Or.inl ⟨id, ⟨response, read⟩, rfl⟩)
      | none =>
        refine Or.inr (Or.inr ⟨marks, fun id announces => ?_, rfl⟩)
        have same := announces.2.symm.trans read
        cases same
    · rw [if_neg response] at scanned
      cases scanned
      exact Or.inr (Or.inr ⟨marks, fun id announces => response announces.1, rfl⟩)

theorem get_append_left {i : ℕ} {found : Json} (present : entries[i]? = some found) :
    (entries ++ [entry])[i]? = some found := by
  have short : i < entries.length := (List.getElem?_eq_some_iff.mp present).1
  rw [List.getElem?_append_left short]
  exact present

theorem get_append {i : ℕ} {found : Json} (present : (entries ++ [entry])[i]? = some found) :
    entries[i]? = some found ∨ i = entries.length ∧ found = entry := by
  by_cases short : i < entries.length
  · rw [List.getElem?_append_left short] at present
    exact Or.inl present
  · have bound : i < (entries ++ [entry]).length := (List.getElem?_eq_some_iff.mp present).1
    have last : i = entries.length := by
      rw [List.length_append, List.length_singleton] at bound
      omega
    subst last
    rw [List.getElem?_concat_length] at present
    cases present
    exact Or.inr ⟨rfl, rfl⟩

/-- Only the last announcement is open, and only until a mark. -/
theorem open_append : Open fromStr (entries ++ [entry]) id ↔
    Announces fromStr entry id ∨
      (¬Marks entry ∧ (∀ other, ¬Announces fromStr entry other) ∧ Open fromStr entries id) := by
  constructor
  · rintro ⟨j, found, present, announces, quiet⟩
    rcases get_append present with earlier | ⟨last, rfl⟩
    · have short : j < entries.length := (List.getElem?_eq_some_iff.mp earlier).1
      obtain ⟨unmarked, silent⟩ := quiet entries.length entry short List.getElem?_concat_length
      refine Or.inr ⟨unmarked, silent, j, found, earlier, announces, ?_⟩
      intro k later less at'
      exact quiet k later less (get_append_left at')
    · exact Or.inl announces
  · rintro (announces | ⟨unmarked, silent, j, found, present, announces, quiet⟩)
    · refine ⟨entries.length, entry, List.getElem?_concat_length, announces, ?_⟩
      intro k later less at'
      have bound : k < (entries ++ [entry]).length := (List.getElem?_eq_some_iff.mp at').1
      rw [List.length_append, List.length_singleton] at bound
      omega
    · refine ⟨j, found, get_append_left present, announces, ?_⟩
      intro k later less at'
      rcases get_append at' with earlier | ⟨_, rfl⟩
      · exact quiet k later less earlier
      · exact ⟨unmarked, silent⟩

theorem asks_append {i : ℕ} : Asks fromStr (entries ++ [entry]) i id ↔
    Asks fromStr entries i id ∨ i = entries.length ∧ Marks entry ∧ Open fromStr entries id := by
  constructor
  · rintro ⟨⟨found, present, marks⟩, opened⟩
    rcases get_append present with earlier | ⟨rfl, rfl⟩
    · have short : i < entries.length := (List.getElem?_eq_some_iff.mp earlier).1
      rw [List.take_append_of_le_length (Nat.le_of_lt short)] at opened
      exact Or.inl ⟨⟨found, earlier, marks⟩, opened⟩
    · rw [List.take_left] at opened
      exact Or.inr ⟨rfl, marks, opened⟩
  · rintro (⟨⟨found, present, marks⟩, opened⟩ | ⟨rfl, marks, opened⟩)
    · have short : i < entries.length := (List.getElem?_eq_some_iff.mp present).1
      refine ⟨⟨found, get_append_left present, marks⟩, ?_⟩
      rw [List.take_append_of_le_length (Nat.le_of_lt short)]
      exact opened
    · refine ⟨⟨entry, List.getElem?_concat_length, marks⟩, ?_⟩
      rw [List.take_left]
      exact opened

/-- The requests in the order in which a decision on each was first asked for. -/
def InOrder (fromStr : String → Option Json) (entries : List Json) (ids : List String) : Prop :=
  ∃ places : List ℕ, places.Pairwise (· < ·) ∧
    List.Forall₂ (fun i id => Asks fromStr entries i id ∧ ∀ j < i, ¬Asks fromStr entries j id)
      places ids

structure Tracks (fromStr : String → Option Json) (entries : List Json) (scan : Scan) :
    Prop where
  pending : ∀ id, scan.pendingAuthReqId = some id ↔ Open fromStr entries id
  distinct : scan.authReqIds.Nodup
  asked : ∀ id, id ∈ scan.authReqIds ↔ ∃ i, Asks fromStr entries i id
  order : InOrder fromStr entries scan.authReqIds

theorem asks_bound {i : ℕ} (asks : Asks fromStr entries i id) : i < entries.length := by
  obtain ⟨⟨_, present, _⟩, _⟩ := asks
  exact (List.getElem?_eq_some_iff.mp present).1

theorem places_asked {ids : List String} {places : List ℕ}
    (asked : List.Forall₂ (fun i id => Asks fromStr entries i id ∧
      ∀ j < i, ¬Asks fromStr entries j id) places ids) : ∀ i ∈ places, i < entries.length := by
  induction asked with
  | nil => simp
  | cons first _ ih =>
    rw [List.forall_mem_cons]
    exact ⟨asks_bound first.1, ih⟩

theorem places_append {ids : List String} {places : List ℕ}
    (asked : List.Forall₂ (fun i id => Asks fromStr entries i id ∧
      ∀ j < i, ¬Asks fromStr entries j id) places ids) :
    List.Forall₂ (fun i id => Asks fromStr (entries ++ [entry]) i id ∧
      ∀ j < i, ¬Asks fromStr (entries ++ [entry]) j id) places ids := by
  refine asked.imp ?_
  rintro i id ⟨asks, first⟩
  refine ⟨asks_append.mpr (Or.inl asks), fun j less asks' => ?_⟩
  rcases asks_append.mp asks' with earlier | ⟨last, _⟩
  · exact first j less earlier
  · have bound := asks_bound asks
    omega

theorem inOrder_append {ids : List String} (order : InOrder fromStr entries ids) :
    InOrder fromStr (entries ++ [entry]) ids := by
  obtain ⟨places, increasing, asked⟩ := order
  exact ⟨places, increasing, places_append asked⟩

theorem inOrder_snoc {ids : List String} (order : InOrder fromStr entries ids)
    (marks : Marks entry) (opened : Open fromStr entries id)
    (fresh : ∀ i, ¬Asks fromStr entries i id) :
    InOrder fromStr (entries ++ [entry]) (ids ++ [id]) := by
  obtain ⟨places, increasing, asked⟩ := order
  refine ⟨places ++ [entries.length], ?_, List.rel_append (places_append asked) (.cons ?_ .nil)⟩
  · rw [List.pairwise_append]
    refine ⟨increasing, List.pairwise_singleton _ _, fun i listed j last => ?_⟩
    rw [List.mem_singleton.mp last]
    exact places_asked asked i listed
  · refine ⟨asks_append.mpr (Or.inr ⟨rfl, marks, opened⟩), fun j less asks => ?_⟩
    rcases asks_append.mp asks with earlier | ⟨last, _⟩
    · exact fresh j earlier
    · omega

theorem mem_insertId {ids : List String} {other : String} :
    other ∈ insertId ids id ↔ other ∈ ids ∨ other = id := by
  unfold insertId
  by_cases listed : id ∈ ids
  · rw [if_pos listed]
    constructor
    · exact Or.inl
    · rintro (old | rfl)
      · exact old
      · exact listed
  · rw [if_neg listed, List.mem_append, List.mem_singleton]

theorem tracks_mark {scan : Scan} (tracks : Tracks fromStr entries scan) (marks : Marks entry)
    (pending : scan.pendingAuthReqId = some id) :
    Tracks fromStr (entries ++ [entry]) ⟨none, insertId scan.authReqIds id⟩ := by
  have opened := (tracks.pending id).mp pending
  have asks : ∀ other, (∃ i, Asks fromStr (entries ++ [entry]) i other) ↔
      (∃ i, Asks fromStr entries i other) ∨ other = id := by
    intro other
    constructor
    · rintro ⟨i, asks⟩
      rcases asks_append.mp asks with earlier | ⟨_, _, opened'⟩
      · exact Or.inl ⟨i, earlier⟩
      · have same := pending.symm.trans ((tracks.pending other).mpr opened')
        cases same
        exact Or.inr rfl
    · rintro (⟨i, asks⟩ | rfl)
      · exact ⟨i, asks_append.mpr (Or.inl asks)⟩
      · exact ⟨_, asks_append.mpr (Or.inr ⟨rfl, marks, opened⟩)⟩
  constructor
  · intro other
    constructor
    · intro closed
      cases closed
    · intro opened'
      rcases open_append.mp opened' with announces | ⟨unmarked, _⟩
      · exact absurd announces (marks_not_announces marks other)
      · exact absurd marks unmarked
  · show (insertId scan.authReqIds id).Nodup
    unfold insertId
    by_cases listed : id ∈ scan.authReqIds
    · rw [if_pos listed]
      exact tracks.distinct
    · rw [if_neg listed, ← List.concat_eq_append]
      exact tracks.distinct.concat listed
  · intro other
    show other ∈ insertId scan.authReqIds id ↔ _
    rw [mem_insertId, asks, tracks.asked]
  · show InOrder fromStr _ (insertId scan.authReqIds id)
    unfold insertId
    by_cases listed : id ∈ scan.authReqIds
    · rw [if_pos listed]
      exact inOrder_append tracks.order
    · rw [if_neg listed]
      refine inOrder_snoc tracks.order marks opened fun i asks => ?_
      exact listed ((tracks.asked id).mpr ⟨i, asks⟩)

theorem tracks_unmarked {scan : Scan} {pending : Option String}
    (tracks : Tracks fromStr entries scan) (unmarked : ¬Marks entry)
    (opens : ∀ id, pending = some id ↔ Open fromStr (entries ++ [entry]) id) :
    Tracks fromStr (entries ++ [entry]) ⟨pending, scan.authReqIds⟩ := by
  constructor
  · exact opens
  · exact tracks.distinct
  · intro id
    rw [tracks.asked]
    constructor
    · rintro ⟨i, asks⟩
      exact ⟨i, asks_append.mpr (Or.inl asks)⟩
    · rintro ⟨i, asks⟩
      rcases asks_append.mp asks with earlier | ⟨_, marks, _⟩
      · exact ⟨i, earlier⟩
      · exact absurd marks unmarked
  · exact inOrder_append tracks.order

theorem tracks_step {scan scan' : Scan} (tracks : Tracks fromStr entries scan)
    (scanned : scanEntry fromStr scan entry = .ok scan') :
    Tracks fromStr (entries ++ [entry]) scan' := by
  rcases scanEntry_cases scanned with ⟨id, marks, pending, rfl⟩ | ⟨id, announces, rfl⟩ |
    ⟨unmarked, silent, rfl⟩
  · exact tracks_mark tracks marks pending
  · have unmarked : ¬Marks entry := fun marks => marks_not_announces marks id announces
    refine tracks_unmarked tracks unmarked fun other => ?_
    constructor
    · intro same
      cases same
      exact open_append.mpr (Or.inl announces)
    · intro opened
      rcases open_append.mp opened with announces' | ⟨_, silent, _⟩
      · rw [announces_same announces announces']
      · exact absurd announces (silent id)
  · refine tracks_unmarked tracks unmarked fun other => ?_
    rw [tracks.pending, open_append]
    constructor
    · intro opened
      exact Or.inr ⟨unmarked, silent, opened⟩
    · rintro (announces | ⟨_, _, opened⟩)
      · exact absurd announces (silent other)
      · exact opened

theorem scanEntries_append (later : List Json) : scanEntries fromStr (entries ++ later) =
    scanEntries fromStr entries >>= fun scan => later.foldlM (scanEntry fromStr) scan :=
  List.foldlM_append

theorem scanEntries_tracks {scan : Scan} (scanned : scanEntries fromStr entries = .ok scan) :
    Tracks fromStr entries scan := by
  induction entries using List.reverseRecOn generalizing scan with
  | nil =>
    cases scanned
    constructor
    · intro id
      constructor
      · intro same
        cases same
      · rintro ⟨j, entry, present, _⟩
        cases present
    · exact List.nodup_nil
    · intro id
      constructor
      · intro listed
        cases listed
      · rintro ⟨i, ⟨entry, present, _⟩, _⟩
        cases present
    · exact ⟨[], List.Pairwise.nil, .nil⟩
  | append_singleton entries entry ih =>
    rw [scanEntries_append, bind_ok] at scanned
    obtain ⟨before, earlier, last⟩ := scanned
    rw [List.foldlM_cons, bind_ok] at last
    obtain ⟨after, step, rest⟩ := last
    cases rest
    exact tracks_step (ih earlier) step

/-! ### Logs that grow -/

theorem insertId_leading (ids : List String) (id : String) : ids <+: insertId ids id := by
  unfold insertId
  by_cases listed : id ∈ ids
  · rw [if_pos listed]
  · rw [if_neg listed]
    exact List.prefix_append ids [id]

theorem scanEntry_leading {scan scan' : Scan} (scanned : scanEntry fromStr scan entry = .ok scan') :
    scan.authReqIds <+: scan'.authReqIds := by
  rcases scanEntry_cases scanned with ⟨id, _, _, rfl⟩ | ⟨id, _, rfl⟩ | ⟨_, _, rfl⟩
  · exact insertId_leading scan.authReqIds id
  · exact List.prefix_rfl
  · exact List.prefix_rfl

theorem scan_leading {later : List Json} {scan scan' : Scan}
    (scanned : later.foldlM (scanEntry fromStr) scan = .ok scan') :
    scan.authReqIds <+: scan'.authReqIds := by
  induction later generalizing scan with
  | nil =>
    cases scanned
    exact List.prefix_rfl
  | cons entry later ih =>
    rw [List.foldlM_cons, bind_ok] at scanned
    obtain ⟨next, first, rest⟩ := scanned
    exact (scanEntry_leading first).trans (ih rest)

/-- The second log goes on where the first one ends. -/
def Extends (log extended : Json) : Prop :=
  ∀ entries, log = .array entries → ∃ later, extended = .array (entries ++ later)

theorem requests_ok {log : Json} {ids : List String} :
    cibaApprovalRequests fromStr log = .ok ids ↔
      ∃ entries scan, log = .array entries ∧ scanEntries fromStr entries = .ok scan ∧
        scan.authReqIds = ids := by
  simp only [cibaApprovalRequests, bind_ok, context_ok]
  constructor
  · rintro ⟨entries, array, scan, scanned, same⟩
    cases log with
    | array values =>
      cases array
      exact ⟨entries, scan, rfl, scanned, Except.ok.inj same⟩
    | _ => cases array
  · rintro ⟨entries, scan, rfl, scanned, same⟩
    exact ⟨entries, rfl, scan, scanned, congrArg Except.ok same⟩

/-- A well-formed log has well-formed beginnings, and each asks for the first requests of it. -/
theorem requests_leading {log extended : Json} {ids : List String} (grows : Extends log extended)
    (array : ∃ entries, log = .array entries)
    (read : cibaApprovalRequests fromStr extended = .ok ids) :
    ∃ before, cibaApprovalRequests fromStr log = .ok before ∧ before <+: ids := by
  obtain ⟨entries, rfl⟩ := array
  obtain ⟨later, rfl⟩ := grows entries rfl
  obtain ⟨all, scan, same, scanned, rfl⟩ := requests_ok.mp read
  cases same
  rw [scanEntries_append, bind_ok] at scanned
  obtain ⟨before, earlier, rest⟩ := scanned
  exact ⟨_, requests_ok.mpr ⟨entries, before, rfl, earlier, rfl⟩, scan_leading rest⟩

end scanned

/-! ## The driver -/

def status (value : Json) : Option String :=
  ((value.get "status").or (value.get "state")).bind Json.asString

def isWaiting (value : Json) : Bool :=
  status value = some "WAITING" || status value = some "WAITING_FOR_USER" ||
    status value = some "WAITING_FOR_BROWSER"

def isTerminal (value : Json) : Bool :=
  status value = some "FINISHED" || status value = some "INTERRUPTED"

def suiteLogHasUploadPlaceholder (value : Json) : Bool :=
  match value with
  | .array entries => entries.any fun entry => ((entry.get "upload").bind Json.asString).isSome
  | _ => false

/-- What one turn of the loop is told, as far as it asks. -/
structure Round where
  isInterrupted : Bool
  expired : Bool
  waitForState : Except String Json
  moduleLog : Except String Json
  /-- The answer to a decision on a request, or the stage it failed in. -/
  decide : String → Except String Unit
  refresh : Except String Unit
  moduleInfo : Except String Json

/-- `submitted` are the decisions in their order, `logs` the logs that were read, the last one
first. -/
structure Driver where
  observed : Json
  submitted : List String
  logs : List Json

abbrev Answer := Except String (Json × Bool)

section driver

variable (fromStr : String → Option Json)

/-- The decisions of one round: what is submitted by then, whether any is new, and a failure. -/
def submitDecisions (decide : String → Except String Unit) :
    List String → Bool → List String → List String × Bool × Option String
  | submitted, madeDecision, [] => (submitted, madeDecision, none)
  | submitted, madeDecision, id :: ids =>
    if id ∈ submitted then submitDecisions decide submitted madeDecision ids
    else match decide id with
      | .error stage =>
        (submitted ++ [id], true, some ("CIBA user decision failed during " ++ stage))
      | .ok () => submitDecisions decide (submitted ++ [id]) true ids

def afterDecisions (driver : Driver) (round : Round) (log : Json) :
    List String × Bool × Option String → Driver × Option Answer
  | (submitted, _, some error) => ({ driver with submitted }, some (.error error))
  | (submitted, madeDecision, none) =>
    if madeDecision = false ∧ submitted ≠ [] ∧ suiteLogHasUploadPlaceholder log = true then
      ({ driver with submitted }, some (.ok (driver.observed, true)))
    else match round.refresh with
      | .error error => ({ driver with submitted }, some (.error error))
      | .ok () => match round.moduleInfo with
        | .error error => ({ driver with submitted }, some (.error error))
        | .ok observed => ({ driver with submitted, observed }, none)

/-- A round in which the log is read. -/
def inspectLog (driver : Driver) (round : Round) (log : Json) : Driver × Option Answer :=
  let reading := { driver with logs := log :: driver.logs }
  match cibaApprovalRequests fromStr log with
  | .error error => (reading, some (.error error))
  | .ok ids => afterDecisions reading round log
      (submitDecisions round.decide driver.submitted false ids)

def turn (driver : Driver) (round : Round) : Driver × Option Answer :=
  if round.isInterrupted then (driver, some (.error "run interrupted"))
  else if round.expired then (driver, some (.error "CIBA user decision timed out"))
  else if isTerminal driver.observed then (driver, some (.ok (driver.observed, false)))
  else if isWaiting driver.observed = false then
    match round.waitForState with
    | .error error => (driver, some (.error error))
    | .ok observed => ({ driver with observed }, none)
  else match round.moduleLog with
    | .error error => (driver, some (.error error))
    | .ok log => inspectLog fromStr driver round log

/-- `drive_ciba_waiting_interruptible` for as many rounds as are given. -/
def driveFrom : Driver → List Round → Driver × Option Answer
  | driver, [] => (driver, none)
  | driver, round :: rounds =>
    match turn fromStr driver round with
    | (driver', some answer) => (driver', some answer)
    | (driver', none) => driveFrom driver' rounds

def driveCibaWaiting (initial : Json) (rounds : List Round) : Driver × Option Answer :=
  driveFrom fromStr ⟨initial, [], []⟩ rounds

end driver

/-! ### Its decisions -/

section decisions

variable {fromStr : String → Option Json} {driver driver' : Driver} {round : Round}

/-- Every request of the log read last has been decided, in its order, and nothing else has. -/
def Settled (fromStr : String → Option Json) (driver : Driver) : Prop :=
  (driver.logs = [] ∧ driver.submitted = []) ∨
    ∃ log before, driver.logs = log :: before ∧
      cibaApprovalRequests fromStr log = .ok driver.submitted

/-- No request is decided twice, and the decisions are the first requests of a log that was
read. -/
structure Reported (fromStr : String → Option Json) (driver : Driver) : Prop where
  distinct : driver.submitted.Nodup
  asked : driver.submitted = [] ∨ ∃ log ∈ driver.logs, ∃ ids,
    cibaApprovalRequests fromStr log = .ok ids ∧ driver.submitted <+: ids

theorem requests_nodup {log : Json} {ids : List String}
    (read : cibaApprovalRequests fromStr log = .ok ids) : ids.Nodup := by
  obtain ⟨entries, scan, _, scanned, rfl⟩ := requests_ok.mp read
  exact (scanEntries_tracks scanned).distinct

theorem Settled.reported (settled : Settled fromStr driver) : Reported fromStr driver := by
  rcases settled with ⟨_, none⟩ | ⟨log, before, logs, read⟩
  · exact ⟨none ▸ List.nodup_nil, Or.inl none⟩
  · refine ⟨requests_nodup read, Or.inr ⟨log, ?_, driver.submitted, read, List.prefix_rfl⟩⟩
    rw [logs]
    exact List.mem_cons_self

theorem submitDecisions_skip {decide : String → Except String Unit} {submitted : List String}
    {madeDecision : Bool} {ids : List String} (rest : List String)
    (decided : ∀ id ∈ ids, id ∈ submitted) :
    submitDecisions decide submitted madeDecision (ids ++ rest) =
      submitDecisions decide submitted madeDecision rest := by
  induction ids with
  | nil => rfl
  | cons id ids ih =>
    rw [List.forall_mem_cons] at decided
    rw [List.cons_append, submitDecisions, if_pos decided.1]
    exact ih decided.2

theorem submitDecisions_fresh {decide : String → Except String Unit} {submitted : List String}
    {madeDecision : Bool} {ids : List String} (distinct : (submitted ++ ids).Nodup) :
    (submitDecisions decide submitted madeDecision ids).1 <+: submitted ++ ids ∧
      ((submitDecisions decide submitted madeDecision ids).2.2 = none →
        (submitDecisions decide submitted madeDecision ids).1 = submitted ++ ids) := by
  induction ids generalizing submitted madeDecision with
  | nil => exact ⟨List.prefix_append _ _, fun _ => (List.append_nil _).symm⟩
  | cons id ids ih =>
    have fresh : id ∉ submitted := by
      intro old
      exact (List.nodup_append.mp distinct).2.2 id old id List.mem_cons_self rfl
    have shifted : submitted ++ id :: ids = (submitted ++ [id]) ++ ids := by
      rw [List.append_assoc, List.singleton_append]
    rw [submitDecisions, if_neg fresh]
    rw [shifted] at distinct ⊢
    cases decide id with
    | error stage =>
      refine ⟨List.prefix_append _ _, fun succeeded => ?_⟩
      cases succeeded
    | ok u => exact ih distinct

/-- The decisions of a round whose log asks for what was decided before, and for more. -/
theorem submitDecisions_leading {decide : String → Except String Unit} {submitted ids : List String}
    {madeDecision : Bool} (before : submitted <+: ids) (distinct : ids.Nodup) :
    (submitDecisions decide submitted madeDecision ids).1 <+: ids ∧
      ((submitDecisions decide submitted madeDecision ids).2.2 = none →
        (submitDecisions decide submitted madeDecision ids).1 = ids) := by
  obtain ⟨rest, rfl⟩ := before
  rw [submitDecisions_skip rest fun id decided => decided]
  exact submitDecisions_fresh distinct

/-- The log read next goes on where the log read last ends. -/
def Follows (driver : Driver) (log : Json) : Prop :=
  ∀ last ∈ driver.logs.head?, Extends last log

theorem Settled.leading (settled : Settled fromStr driver) {log : Json} {ids : List String}
    (follows : Follows driver log) (read : cibaApprovalRequests fromStr log = .ok ids) :
    driver.submitted <+: ids := by
  rcases settled with ⟨_, none⟩ | ⟨last, before, logs, earlier⟩
  · rw [none]
    exact List.nil_prefix
  · have grows : Extends last log := follows last (by rw [logs]; rfl)
    obtain ⟨entries, scan, array, _⟩ := requests_ok.mp earlier
    obtain ⟨ids', read', leading⟩ := requests_leading grows ⟨entries, array⟩ read
    have same := earlier.symm.trans read'
    cases same
    exact leading

theorem afterDecisions_driver {log : Json} {submitted : List String} {madeDecision : Bool}
    {failure : Option String} :
    ((afterDecisions driver round log (submitted, madeDecision, failure)).1.submitted =
        submitted ∧
      (afterDecisions driver round log (submitted, madeDecision, failure)).1.logs =
        driver.logs) ∧
      (∀ error, failure = some error →
        (afterDecisions driver round log (submitted, madeDecision, failure)).2 =
          some (.error error)) := by
  cases failure with
  | some error => exact ⟨⟨rfl, rfl⟩, fun error' same => by cases same; rfl⟩
  | none =>
    refine ⟨?_, fun error same => by cases same⟩
    unfold afterDecisions
    dsimp only
    split_ifs
    · exact ⟨rfl, rfl⟩
    · cases round.refresh with
      | error error => exact ⟨rfl, rfl⟩
      | ok u =>
        cases round.moduleInfo with
        | error error => exact ⟨rfl, rfl⟩
        | ok observed => exact ⟨rfl, rfl⟩

/-- What one turn leaves, unless it ends in an error. -/
structure Turned (fromStr : String → Option Json) (driver : Driver) (round : Round)
    (out : Driver × Option Answer) : Prop where
  reported : Reported fromStr out.1
  settled : (∀ error, out.2 ≠ some (.error error)) → Settled fromStr out.1
  logs : out.1.logs = driver.logs ∨
    ∃ log, round.moduleLog = .ok log ∧ out.1.logs = log :: driver.logs

theorem Settled.turned (settled : Settled fromStr driver) {observed : Json}
    {answer : Option Answer} : Turned fromStr driver round ({ driver with observed }, answer) :=
  ⟨Settled.reported settled, fun _ => settled, Or.inl rfl⟩

theorem inspectLog_ok {log : Json} {ids : List String}
    (asked : cibaApprovalRequests fromStr log = .ok ids) :
    inspectLog fromStr driver round log =
      afterDecisions { driver with logs := log :: driver.logs } round log
        (submitDecisions round.decide driver.submitted false ids) := by
  unfold inspectLog
  rw [asked]

theorem inspectLog_error {log : Json} {error : String}
    (asked : cibaApprovalRequests fromStr log = .error error) :
    inspectLog fromStr driver round log =
      ({ driver with logs := log :: driver.logs }, some (.error error)) := by
  unfold inspectLog
  rw [asked]

theorem inspectLog_turned (settled : Settled fromStr driver) {log : Json}
    (read : round.moduleLog = .ok log) (follows : Follows driver log) :
    Turned fromStr driver round (inspectLog fromStr driver round log) := by
  have reported := settled.reported
  cases asked : cibaApprovalRequests fromStr log with
  | error error =>
    rw [inspectLog_error asked]
    refine ⟨⟨reported.distinct, ?_⟩, fun fails => absurd rfl (fails error),
      Or.inr ⟨log, read, rfl⟩⟩
    rcases reported.asked with none | ⟨earlier, listed, ids, known⟩
    · exact Or.inl none
    · exact Or.inr ⟨earlier, List.mem_cons_of_mem _ listed, ids, known⟩
  | ok ids =>
    have distinct := requests_nodup asked
    obtain ⟨leading, complete⟩ := @submitDecisions_leading round.decide driver.submitted ids false
      (settled.leading follows asked) distinct
    rw [inspectLog_ok asked]
    generalize submitDecisions round.decide driver.submitted false ids = decisions
      at leading complete
    obtain ⟨submitted, madeDecision, failure⟩ := decisions
    obtain ⟨⟨same, logs⟩, failed⟩ := @afterDecisions_driver
      { driver with logs := log :: driver.logs } round log submitted madeDecision failure
    refine ⟨⟨?_, Or.inr ⟨log, ?_, ids, asked, ?_⟩⟩,
      fun fails => Or.inr ⟨log, driver.logs, logs, ?_⟩, Or.inr ⟨log, read, logs⟩⟩
    · rw [same]
      exact leading.sublist.nodup distinct
    · rw [logs]
      exact List.mem_cons_self
    · rw [same]
      exact leading
    · have succeeded : failure = none := by
        cases failure with
        | none => rfl
        | some error => exact absurd (failed error rfl) (fails error)
      have all : submitted = ids := complete succeeded
      rw [same, asked, all]

theorem turn_turned (settled : Settled fromStr driver)
    (follows : ∀ log, round.moduleLog = .ok log → Follows driver log) :
    Turned fromStr driver round (turn fromStr driver round) := by
  unfold turn
  split_ifs
  · exact settled.turned
  · exact settled.turned
  · exact settled.turned
  · cases round.waitForState with
    | error error => exact settled.turned
    | ok observed => exact settled.turned
  · cases read : round.moduleLog with
    | error error => exact settled.turned
    | ok log => exact inspectLog_turned settled read (follows log read)

/-- The logs of two rounds, the later one going on where the earlier one ends. -/
def Grows (round later : Round) : Prop :=
  ∀ log extended, round.moduleLog = .ok log → later.moduleLog = .ok extended →
    Extends log extended

theorem driveFrom_reported {rounds : List Round} (settled : Settled fromStr driver)
    (follows : ∀ round ∈ rounds, ∀ log, round.moduleLog = .ok log → Follows driver log)
    (growing : rounds.Pairwise Grows) :
    Reported fromStr (driveFrom fromStr driver rounds).1 ∧
      ∀ result, (driveFrom fromStr driver rounds).2 = some (.ok result) →
        Settled fromStr (driveFrom fromStr driver rounds).1 := by
  induction rounds generalizing driver with
  | nil => exact ⟨settled.reported, fun result none => by cases none⟩
  | cons round rounds ih =>
    rw [List.forall_mem_cons] at follows
    rw [List.pairwise_cons] at growing
    have turned := turn_turned settled follows.1
    unfold driveFrom
    generalize turn fromStr driver round = out at turned
    obtain ⟨driver', answer⟩ := out
    cases answer with
    | some answer =>
      refine ⟨turned.reported, fun result same => turned.settled fun error fails => ?_⟩
      cases same
      cases fails
    | none =>
      refine ih (turned.settled fun error fails => by cases fails) ?_ growing.2
      intro later listed extended read last leading
      rcases turned.logs with logs | ⟨log, earlier, logs⟩
      · rw [logs] at leading
        exact follows.2 later listed extended read last leading
      · rw [logs] at leading
        cases leading
        exact growing.1 later listed last extended earlier read

/-- The requests of a log are those a decision is asked for, each once, in the order in which
they are first asked for. -/
structure AsAsked (fromStr : String → Option Json) (log : Json) (ids : List String) : Prop where
  distinct : ids.Nodup
  asked : ∃ entries, log = .array entries ∧
    (∀ id, id ∈ ids ↔ ∃ i, Asks fromStr entries i id) ∧ InOrder fromStr entries ids

theorem requests_asked {log : Json} {ids : List String}
    (read : cibaApprovalRequests fromStr log = .ok ids) : AsAsked fromStr log ids := by
  obtain ⟨entries, scan, array, scanned, rfl⟩ := requests_ok.mp read
  have tracks := scanEntries_tracks scanned
  exact ⟨tracks.distinct, entries, array, tracks.asked, tracks.order⟩

end decisions

/-! ### A module with two requests -/

section sample

def sampleParse (text : String) : Option Json :=
  if text = "\x7b\"auth_req_id\":\"request-1\"\x7d" then
    some (.object [("auth_req_id", .string "request-1")])
  else none

def announcement (id : String) : Json :=
  .object [("src", .string BACKCHANNEL_RESPONSE_SOURCE), ("auth_req_id", .string id)]

def markEntry : Json := .object [("src", .string AUTOMATED_APPROVAL_SOURCE)]

def firstEntries : List Json :=
  [.object [("src", .string BACKCHANNEL_RESPONSE_SOURCE),
    ("backchannel_authentication_endpoint_response",
      .string "\x7b\"auth_req_id\":\"request-1\"\x7d")], markEntry]

def secondEntries : List Json := [announcement "request-2", markEntry]

def sampleRound (entries : List Json) (next : String) : Round where
  isInterrupted := false
  expired := false
  waitForState := .error "not waited for"
  moduleLog := .ok (.array entries)
  decide _ := .ok ()
  refresh := .ok ()
  moduleInfo := .ok (.object [("status", .string next)])

def sampleRounds : List Round :=
  [sampleRound firstEntries "WAITING", sampleRound (firstEntries ++ secondEntries) "FINISHED",
    sampleRound (firstEntries ++ secondEntries) "FINISHED"]

theorem sampleRounds_grow : sampleRounds.Pairwise Grows := by
  have grows : Extends (.array firstEntries) (.array (firstEntries ++ secondEntries)) := by
    intro entries same
    cases same
    exact ⟨secondEntries, rfl⟩
  have stays : Extends (.array (firstEntries ++ secondEntries))
      (.array (firstEntries ++ secondEntries)) := by
    intro entries same
    cases same
    exact ⟨[], by rw [List.append_nil]⟩
  simp only [sampleRounds, List.pairwise_cons, List.forall_mem_cons]
  refine ⟨⟨?_, ?_, by simp⟩, ⟨?_, by simp⟩, by simp, List.Pairwise.nil⟩
  · intro log extended first second
    cases first
    cases second
    exact grows
  · intro log extended first second
    cases first
    cases second
    exact grows
  · intro log extended first second
    cases first
    cases second
    exact stays

def sampleOutcome : Driver × Option Answer :=
  driveCibaWaiting sampleParse (.object [("status", .string "WAITING")]) sampleRounds

theorem sample_submitted : sampleOutcome.1.submitted = ["request-1", "request-2"] := by
  decide

end sample

end NazoAuthCtl.CibaApproval
