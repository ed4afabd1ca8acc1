import Mathlib.Data.List.DropRight
import Mathlib.Data.List.Basic
import NazoAuthCtl.InstallAdmission

/-!
# The unit and the account of a host service

`install_host_service` renders a unit for a verified binary and creates the account it runs
as. Later commands know the service by what systemd shows of its `ExecStart`, a list of
fields between braces. Paths are those of a Unix target. What systemd shows behind the
command, such as the last exit status, is a parameter.
-/

set_option autoImplicit false
set_option linter.all false

namespace NazoAuthCtl.SystemdUnits

open Checks
open InstallAdmission (splitSlash components)
open StateDocument (isControl isWhitespace)

abbrev Text := List Char

/-! ## Installs -/

structure HostServiceInstall where
  serviceName : String
  deploymentId : String
  serviceUser : String
  sourceBinary : String
  binary : String
  config : String
  dataRoot : String
  secretPaths : List String
  deriving DecidableEq

def quoting (c : Char) : Bool := c = '%' || c = '\'' || c = '"' || c = '\\'

def unsupported (c : Char) : Bool := isControl c || isWhitespace c || quoting c

def safeSystemdPath (value : String) : Except String Unit := do
  check (value.toList.head? = some '/')
    s!"path must be a normalized absolute non-root path: {value}"
  check (value ≠ "/" ∧ ∀ component ∈ (splitSlash value).tail, component ≠ "" ∧ component ≠ "." ∧
    component ≠ "..") s!"systemd path must be a normalized absolute non-root path: {value}"
  check (value.toList.all fun c => !unsupported c)
    s!"systemd path contains unsupported whitespace or quoting: {value}"

def unitCharacter (c : Char) : Bool := c.isAlphanum || "@_.:-".toList.contains c

def validateUnitName (unit : String) : Except String Unit :=
  check (".service".toList.isSuffixOf unit.toList ∧ unit.utf8ByteSize ≤ 256 ∧
    unit.toList.all unitCharacter) "invalid systemd service reference"

def validateSystemdScalar (name value : String) : Except String Unit :=
  check (value ≠ "" ∧ value.toList.all fun c => !unsupported c)
    s!"{name} contains unsupported systemd input characters"

def validatePaths (error : String) : List String → Except String Unit
  | [] => .ok ()
  | path :: paths => do
    (safeSystemdPath path).mapError fun _ => error
    validatePaths error paths

def validateHostServiceInstall (install : HostServiceInstall) : Except String Unit := do
  validateUnitName install.serviceName
  validateSystemdScalar "service user" install.serviceUser
  validateSystemdScalar "deployment id" install.deploymentId
  check (install.serviceUser ≠ "root" ∧ install.serviceUser ≠ "0")
    "systemd service user must not be root"
  validatePaths "source binary path is unsafe for a systemd unit" [install.sourceBinary]
  validatePaths "binary path is unsafe for a systemd unit" [install.binary]
  validatePaths "configuration path is unsafe for a systemd unit" [install.config]
  validatePaths "data root is unsafe for a systemd unit" [install.dataRoot]
  check (install.secretPaths ≠ []) "systemd service requires explicit secret paths"
  validatePaths "secret path is unsafe for a systemd unit" install.secretPaths

/-! ## The unit -/

inductive UnitLine where
  | comment (text : String)
  | blank
  | section (name : String)
  | directive (key value : String)
  deriving DecidableEq

def UnitLine.text : UnitLine → Text
  | .comment text => '#' :: ' ' :: text.toList
  | .blank => []
  | .section name => '[' :: (name.toList ++ [']'])
  | .directive key value => key.toList ++ '=' :: value.toList

/-- The format string of `render_host_service_unit`, line by line. -/
def unitLines (install : HostServiceInstall) : List UnitLine :=
  [.comment "Managed by nazoauthctl",
    .section "Unit",
    .directive "Description" "NazoAuth authorization server",
    .directive "After" "network-online.target",
    .directive "Wants" "network-online.target",
    .directive "StartLimitIntervalSec" "60s",
    .directive "StartLimitBurst" "5",
    .blank,
    .section "Service",
    .directive "Type" "simple",
    .directive "User" install.serviceUser,
    .directive "Group" install.serviceUser,
    .directive "WorkingDirectory" install.dataRoot,
    .directive "ExecStart" (install.binary ++ " server"),
    .directive "Environment" ("DEPLOYMENT_ID=" ++ install.deploymentId),
    .directive "Environment" ("NAZOAUTH_SERVER_CONFIG_FILE=" ++ install.config),
    .directive "Environment" ("DATA_DIR=" ++ install.dataRoot),
    .directive "Restart" "on-failure",
    .directive "RestartSec" "2",
    .directive "TasksMax" "512",
    .directive "MemoryMax" "1G",
    .directive "CPUQuota" "200%",
    .directive "NoNewPrivileges" "true",
    .directive "PrivateTmp" "true",
    .directive "PrivateDevices" "true",
    .directive "ProtectSystem" "strict",
    .directive "ProtectHome" "true",
    .directive "ProtectKernelTunables" "true",
    .directive "ProtectKernelModules" "true",
    .directive "ProtectControlGroups" "true",
    .directive "RestrictSUIDSGID" "true",
    .directive "LockPersonality" "true",
    .directive "CapabilityBoundingSet" "",
    .directive "AmbientCapabilities" "",
    .directive "ReadOnlyPaths" (install.config ++ " " ++ " ".intercalate install.secretPaths),
    .directive "ReadWritePaths" install.dataRoot,
    .blank,
    .section "Install",
    .directive "WantedBy" "multi-user.target"]

def renderLines : List UnitLine → Text
  | [] => []
  | line :: lines => line.text ++ '\n' :: renderLines lines

def renderHostServiceUnit (install : HostServiceInstall) : Except String Text := do
  validateHostServiceInstall install
  .ok (renderLines (unitLines install))

/-! ### The unit as systemd reads it -/

def isAsciiWhitespace (c : Char) : Bool :=
  c = ' ' || c = '\t' || c = '\n' || c = '\r' || c.toNat = 12

/-- `str::split_ascii_whitespace`, and the words of a unit's value without quotes. -/
def words (text : Text) : List Text := (text.splitOnP isAsciiWhitespace).filter (· ≠ [])

/-- A line of a unit file that sets something, with the words of its value. -/
def readDirective (line : Text) : Option (Text × List Text) :=
  if line.head? = some '#' ∨ line.head? = some ';' ∨ line.head? = some '[' then none
  else match line.dropWhile (· ≠ '=') with
    | [] => none
    | _ :: value => some (line.takeWhile (· ≠ '='), words value)

def directives (unit : Text) : List (Text × List Text) :=
  (unit.splitOnP (· = '\n')).filterMap readDirective

/-! ## What systemd shows -/

structure ExecFields where
  path : Option Text
  argvFields : List Text
  deriving DecidableEq

def trimText (text : Text) : Text := (text.dropWhile isWhitespace).rdropWhile isWhitespace

def separator (c : Char) : Bool := isAsciiWhitespace c || c = ';'

def keyCharacter (c : Char) : Bool := c ≠ '=' && !isAsciiWhitespace c && c ≠ ';'

def onePath (fields : ExecFields) : List Text → Except String ExecFields
  | [] => .ok { fields with path := none }
  | [path] => .ok { fields with path := some path }
  | _ => .error "systemd ExecStart scalar contains multiple words"

def addField (fields : ExecFields) (key raw : Text) : Except String ExecFields :=
  if key = "path".toList then do
    check (fields.path = none) "systemd ExecStart contains multiple paths"
    onePath fields (words raw)
  else if key = "argv[]".toList then
    .ok { fields with argvFields := fields.argvFields ++ [raw] }
  else .ok fields

/-- The loop over the fields. Each turn takes at least one character. -/
def scanFields : ℕ → ExecFields → Text → Except String ExecFields
  | 0, fields, _ => .ok fields
  | fuel + 1, fields, text =>
    let field := text.dropWhile separator
    if field = [] then .ok fields
    else match field.dropWhile keyCharacter with
      | '=' :: rest =>
        if field.takeWhile keyCharacter = [] then
          .error "systemd ExecStart contains a malformed field"
        else
          let raw := trimText (rest.takeWhile (· ≠ ';'))
          if raw = [] then .error "systemd ExecStart contains an empty field"
          else do
            let fields ← addField fields (field.takeWhile keyCharacter) raw
            scanFields fuel fields ((rest.dropWhile (· ≠ ';')).drop 1)
      | _ => .error "systemd ExecStart contains a malformed field"

def validateSystemdExecInput (value : Text) : Except String Unit :=
  check (value.all fun c => !(isControl c || quoting c))
    "systemd ExecStart contains unsupported control, specifier, quote, or escape input"

def stripBraces : Text → Option Text
  | '{' :: rest => if rest.getLast? = some '}' then some rest.dropLast else none
  | _ => none

def stripNewline (value : Text) : Text :=
  if value.getLast? = some '\n' then value.dropLast else value

def parseBody (body : Text) : Except String (List Text) := do
  check (body.all fun c => !(c = '{' || c = '}'))
    "systemd ExecStart contains multiple structured commands"
  let fields ← scanFields (body.length + 1) ⟨none, []⟩ body
  match fields.path with
  | none => .error "systemd ExecStart has no path field"
  | some path => do
    check (fields.argvFields.flatMap words ≠ []) "systemd ExecStart has no argv[] field"
    check ((fields.argvFields.flatMap words).head? = some path)
      "systemd ExecStart path and argv[0] differ"
    .ok (fields.argvFields.flatMap words)

def parseSystemdExecStart (value : Text) : Except String (List Text) := do
  validateSystemdExecInput (stripNewline value)
  match stripBraces (trimText (stripNewline value)) with
  | none => .error "systemd ExecStart is not a single structured command"
  | some body => parseBody body

def fileName (path : String) : Option String := (components path).getLast?

def serverFileName (name : Option String) : Bool :=
  name = some "nazoauth" || name = some "nazoauth.exe"

def isNazoauthServerArgv (argv : List Text) : Bool :=
  serverFileName ((argv.head?).bind fun program => fileName (String.ofList program)) &&
    argv[1]? = some "server".toList

/-- `server_command_verified` of the unit's observation. -/
def serverCommandVerified (execStart : Text) : Bool :=
  match parseSystemdExecStart execStart with
  | .ok argv => isNazoauthServerArgv argv
  | .error _ => false

def systemdUnitExecutable (execStart : Text) : Except String String := do
  let argv ← parseSystemdExecStart execStart
  check (isNazoauthServerArgv argv)
    "systemd unit ExecStart is not an authorized nazoauth server command"
  .ok (String.ofList (argv.headD []))

/-- The checks of `replace` on the path that it is to put the new binary at. -/
def acceptReplacementTarget (execStart : Text) (command : List String) : Except String Unit :=
  match command.head? with
  | none => .error "systemd replacement has no executable path"
  | some target => do
    check (target.toList.head? = some '/' ∧ ".." ∉ components target ∧
      serverFileName (fileName target) ∧ command[1]? = some "server")
      "systemd replacement command is not an absolute nazoauth server command"
    let current ← systemdUnitExecutable execStart
    check (components current = components target)
      "systemd replacement target does not match the current unit ExecStart path"

/-- A field that systemd shows behind the command, such as `ignore_errors=no`. -/
structure StatusField where
  key : Text
  value : Text
  name : key ≠ [] ∧ key.all keyCharacter ∧ key ≠ "path".toList ∧ key ≠ "argv[]".toList
  filled : value ≠ []
  ends : (∀ c ∈ value.head?, isWhitespace c = false) ∧ ∀ c ∈ value.getLast?, isWhitespace c = false
  plain : (key ++ value).all fun c =>
    !(isControl c || quoting c || c = '{' || c = '}' || c = ';')

def fieldsText : List (Text × Text) → Text
  | [] => []
  | [field] => ' ' :: (field.1 ++ '=' :: (field.2 ++ [' ']))
  | field :: next :: fields =>
    ' ' :: (field.1 ++ '=' :: (field.2 ++ ' ' :: ';' :: fieldsText (next :: fields)))

/-- The command of a unit file. -/
def execStartOf (unit : Text) : List Text :=
  match (directives unit).find? fun directive => directive.1 = "ExecStart".toList with
  | some directive => directive.2
  | none => []

def joinWords (parts : List Text) : Text := [' '].intercalate parts

/-- `ExecStart` as `systemctl show` prints it for a command. -/
def shownExecStart (argv : List Text) (status : List StatusField) : Text :=
  '{' :: (fieldsText (("path".toList, argv.headD []) :: ("argv[]".toList, joinWords argv) ::
      status.map fun field => (field.key, field.value)) ++ ['}'])

/-! ## Scanning -/

def Ended (text : Text) : Prop :=
  text ≠ [] ∧ (∀ c ∈ text.head?, isWhitespace c = false) ∧
    ∀ c ∈ text.getLast?, isWhitespace c = false

theorem trim_ended {text : Text} (ended : Ended text) : trimText text = text := by
  obtain ⟨filled, first, last⟩ := ended
  cases text with
  | nil => exact absurd rfl filled
  | cons c rest =>
    have starts : isWhitespace c = false := first c rfl
    have stays : (c :: rest).dropWhile isWhitespace = c :: rest :=
      List.dropWhile_cons_of_neg (by simp [starts])
    rw [trimText, stays, List.rdropWhile_eq_self_iff]
    intro nonempty
    simp [last _ (List.getLast?_eq_some_getLast nonempty)]

theorem trim_padded {text : Text} (ended : Ended text) : trimText (text ++ [' ']) = text := by
  have whole := trim_ended ended
  obtain ⟨filled, first, last⟩ := ended
  cases text with
  | nil => exact absurd rfl filled
  | cons c rest =>
    have starts : isWhitespace c = false := first c rfl
    have stays : ∀ tail, (c :: tail).dropWhile isWhitespace = c :: tail := by
      intro tail
      exact List.dropWhile_cons_of_neg (by simp [starts])
    have shorter : (c :: rest ++ [' ']).rdropWhile isWhitespace
        = (c :: rest).rdropWhile isWhitespace := List.rdropWhile_concat_pos _ _ _ (by decide)
    rw [trimText, List.cons_append, stays, ← List.cons_append, shorter]
    rw [trimText, stays] at whole
    exact whole

theorem scan_nil {fuel : ℕ} {fields : ExecFields} : scanFields fuel fields [] = .ok fields := by
  cases fuel with
  | zero => rfl
  | succ fuel => simp [scanFields]

/-- One turn of the scanner takes the field up to the next semicolon. -/
theorem scan_field {fuel : ℕ} {fields : ExecFields} {key rest : Text} (named : key ≠ [])
    (keyed : ∀ c ∈ key, keyCharacter c = true)
    (filled : trimText (rest.takeWhile (· ≠ ';')) ≠ []) :
    scanFields (fuel + 1) fields (' ' :: (key ++ '=' :: rest)) = (do
      let fields ← addField fields key (trimText (rest.takeWhile (· ≠ ';')))
      scanFields fuel fields ((rest.dropWhile (· ≠ ';')).drop 1)) := by
  have starts : (' ' :: (key ++ '=' :: rest)).dropWhile separator = key ++ '=' :: rest := by
    cases key with
    | nil => exact absurd rfl named
    | cons c key =>
      have plain : separator c = false := by
        have character := keyed c (by simp)
        simp only [keyCharacter, Bool.and_eq_true, Bool.not_eq_true', decide_eq_true_eq]
          at character
        simp [separator, character]
      rw [List.dropWhile_cons_of_pos (by decide), List.cons_append,
        List.dropWhile_cons_of_neg (by simp [plain])]
  have keyEnd : (key ++ '=' :: rest).dropWhile keyCharacter = '=' :: rest := by
    rw [List.dropWhile_append_of_pos keyed, List.dropWhile_cons_of_neg (by decide)]
  have keyText : (key ++ '=' :: rest).takeWhile keyCharacter = key := by
    rw [List.takeWhile_append_of_pos keyed, List.takeWhile_cons_of_neg (by decide), List.append_nil]
  have some : key ++ '=' :: rest ≠ [] := by simp
  simp only [scanFields, starts, keyEnd, keyText, some, named, filled, if_false]


/-- A value without a semicolon is taken whole, whether or not a field follows it. -/
theorem scan_value {fuel : ℕ} {fields : ExecFields} {key value : Text} (named : key ≠ [])
    (keyed : ∀ c ∈ key, keyCharacter c = true) (ended : Ended value) (clean : ';' ∉ value) :
    (∀ more, scanFields (fuel + 1) fields
        (' ' :: (key ++ '=' :: (value ++ ' ' :: ';' :: more))) = (do
      let fields ← addField fields key value
      scanFields fuel fields more)) ∧
    scanFields (fuel + 1) fields (' ' :: (key ++ '=' :: (value ++ [' ']))) =
      addField fields key value := by
  have plain : ∀ c ∈ value, decide (c ≠ ';') = true := by
    intro c member
    simp only [decide_eq_true_eq]
    rintro rfl
    exact clean member
  have taken : ∀ more, (value ++ ' ' :: ';' :: more).takeWhile (fun c => decide (c ≠ ';'))
      = value ++ [' '] := by
    intro more
    rw [List.takeWhile_append_of_pos plain]
    rfl
  have left : ∀ more, ((value ++ ' ' :: ';' :: more).dropWhile fun c => decide (c ≠ ';')).drop 1
      = more := by
    intro more
    rw [List.dropWhile_append_of_pos plain]
    rfl
  have takenLast : (value ++ [' ']).takeWhile (fun c => decide (c ≠ ';')) = value ++ [' '] := by
    rw [List.takeWhile_append_of_pos plain]
    rfl
  have leftLast : ((value ++ [' ']).dropWhile fun c => decide (c ≠ ';')).drop 1 = [] := by
    rw [List.dropWhile_append_of_pos plain]
    rfl
  constructor
  · intro more
    rw [scan_field named keyed (by rw [taken, trim_padded ended]; exact ended.1), taken, left,
      trim_padded ended]
  · rw [scan_field named keyed (by rw [takenLast, trim_padded ended]; exact ended.1), takenLast,
      leftLast, trim_padded ended]
    cases addField fields key value with
    | error message => rfl
    | ok fields => exact scan_nil

theorem StatusField.scanned (field : StatusField) :
    (∀ c ∈ field.key, keyCharacter c = true) ∧ Ended field.value ∧ ';' ∉ field.value ∧
      ∀ fields, addField fields field.key field.value = .ok fields := by
  obtain ⟨named, keyed, notPath, notArgv⟩ := field.name
  refine ⟨List.all_eq_true.mp keyed, ⟨field.filled, field.ends⟩, ?_, ?_⟩
  · intro member
    have plain := List.all_eq_true.mp field.plain ';' (List.mem_append_right _ member)
    simp at plain
  · intro fields
    rw [addField, if_neg notPath, if_neg notArgv]

/-- The fields that systemd shows behind the command change nothing. -/
theorem scan_status {fields : ExecFields} (status : List StatusField) :
    ∀ fuel, status.length ≤ fuel →
      scanFields fuel fields (fieldsText (status.map fun field => (field.key, field.value))) =
        .ok fields := by
  induction status with
  | nil =>
    intro fuel enough
    exact scan_nil
  | cons field status hypothesis =>
    intro fuel enough
    cases fuel with
    | zero => simp at enough
    | succ fuel =>
      obtain ⟨keyed, ended, clean, added⟩ := field.scanned
      obtain ⟨followed, last⟩ :=
        @scan_value fuel fields field.key field.value field.name.1 keyed ended clean
      cases status with
      | nil => exact last.trans (added fields)
      | cons next status =>
        have rest := hypothesis fuel (by simpa using enough)
        have step := followed (fieldsText ((next :: status).map fun field =>
          (field.key, field.value)))
        rw [added] at step
        exact step.trans rest

theorem fieldsText_length (fields : List (Text × Text)) :
    fields.length ≤ (fieldsText fields).length := by
  induction fields with
  | nil => simp
  | cons field fields hypothesis =>
    cases fields with
    | nil => simp [fieldsText]
    | cons next fields =>
      simp only [fieldsText, List.length_cons, List.length_append] at hypothesis ⊢
      omega

/-! ## Words -/

theorem words_word {word : Text} (filled : word ≠ [])
    (clean : ∀ c ∈ word, isAsciiWhitespace c = false) : words word = [word] := by
  rw [words, List.splitOnP_eq_singleton clean]
  simp [filled]

def Word (word : Text) : Prop := word ≠ [] ∧ ∀ c ∈ word, isAsciiWhitespace c = false

theorem join_cons {part next : Text} {parts : List Text} :
    joinWords (part :: next :: parts) = part ++ ' ' :: joinWords (next :: parts) := by
  simp [joinWords, List.intercalate]

theorem words_join {parts : List Text} (plain : ∀ part ∈ parts, Word part) :
    words (joinWords parts) = parts := by
  induction parts with
  | nil => rfl
  | cons part parts hypothesis =>
    obtain ⟨filled, clean⟩ := plain part (by simp)
    have rest := hypothesis fun other member => plain other (by simp [member])
    cases parts with
    | nil => 
      rw [joinWords, List.intercalate_singleton]
      exact words_word filled clean
    | cons next parts =>
      rw [join_cons, words, List.splitOnP_append_cons_of_forall_mem clean ' ' (by decide),
        List.filter_cons_of_pos (by simpa using filled)]
      exact congrArg (part :: ·) rest

/-! ## Parsing -/

theorem mem_fieldsText {c : Char} {fields : List (Text × Text)} (member : c ∈ fieldsText fields) :
    c ∈ [' ', '=', ';'] ∨ ∃ field ∈ fields, c ∈ field.1 ++ field.2 := by
  induction fields with
  | nil => simp [fieldsText] at member
  | cons field fields hypothesis =>
    cases fields with
    | nil =>
      simp only [fieldsText, List.mem_cons, List.mem_append, List.not_mem_nil] at member ⊢
      grind
    | cons next fields =>
      simp only [fieldsText, List.mem_cons, List.mem_append] at member hypothesis ⊢
      grind

theorem parse_braced {body : Text} (plain : ∀ c ∈ body, (isControl c || quoting c) = false) :
    parseSystemdExecStart ('{' :: (body ++ ['}'])) = parseBody body := by
  have last : ('{' :: (body ++ ['}'])).getLast? = some '}' := by
    rw [← List.cons_append, List.getLast?_append]
    rfl
  have ended : Ended ('{' :: (body ++ ['}'])) := by
    refine ⟨by simp, ?_, ?_⟩
    · intro c member
      cases Option.mem_some_iff.mp member
      decide
    · intro c member
      rw [last] at member
      cases Option.mem_some_iff.mp member
      decide
  have kept : stripNewline ('{' :: (body ++ ['}'])) = '{' :: (body ++ ['}']) := by
    rw [stripNewline, last, if_neg (by decide)]
  have valid : validateSystemdExecInput ('{' :: (body ++ ['}'])) = .ok () := by
    rw [validateSystemdExecInput, check_ok, List.all_eq_true]
    intro c member
    rw [List.mem_cons, List.mem_append, List.mem_singleton] at member
    obtain rfl | member | rfl := member
    · decide
    · simpa using plain c member
    · decide
  have stripped : stripBraces ('{' :: (body ++ ['}'])) = some body := by
    simp [stripBraces]
  rw [parseSystemdExecStart, kept, valid, trim_ended ended, stripped]
  rfl

/-- The characters that structure what systemd shows. -/
def structural (c : Char) : Bool := c = ';' || c = '{' || c = '}'

theorem added_path {fields after : ExecFields} {key raw path : Text}
    (added : addField fields key raw = .ok after) (known : fields.path = some path) :
    after.path = some path := by
  rw [addField] at added
  by_cases isPath : key = "path".toList
  · rw [if_pos isPath, bind_ok] at added
    obtain ⟨u, first, _⟩ := added
    rw [check_ok, known] at first
    cases first
  · rw [if_neg isPath] at added
    by_cases isArgv : key = "argv[]".toList
    · rw [if_pos isArgv] at added
      cases added
      exact known
    · rw [if_neg isArgv] at added
      cases added
      exact known

/-- A second path is an error, so a path that was read stays. -/
theorem path_scanned {after : ExecFields} {path : Text} (fuel : ℕ) :
    ∀ {fields : ExecFields} {text : Text}, scanFields fuel fields text = .ok after →
      fields.path = some path → after.path = some path := by
  induction fuel with
  | zero =>
    intro fields text scanned known
    cases scanned
    exact known
  | succ fuel hypothesis =>
    intro fields text scanned known
    simp only [scanFields] at scanned
    by_cases done : text.dropWhile separator = []
    · rw [if_pos done] at scanned
      cases scanned
      exact known
    · rw [if_neg done] at scanned
      split at scanned
      · next rest shape =>
        by_cases unnamed : (text.dropWhile separator).takeWhile keyCharacter = []
        · rw [if_pos unnamed] at scanned
          cases scanned
        · rw [if_neg unnamed] at scanned
          by_cases empty : trimText (rest.takeWhile (· ≠ ';')) = []
          · rw [if_pos empty] at scanned
            cases scanned
          · rw [if_neg empty, bind_ok] at scanned
            obtain ⟨between, added, others⟩ := scanned
            exact hypothesis others (added_path added known)
      · cases scanned

/-! ## Accepted paths -/

/-- What `safe_systemd_path` promises of a path's characters. -/
def PlainPath (path : Text) : Prop := path.head? = some '/' ∧ ∀ c ∈ path, unsupported c = false

theorem ascii_whitespace {c : Char} (plain : unsupported c = false) :
    isAsciiWhitespace c = false := by
  simp only [unsupported, Bool.or_eq_false_iff] at plain
  have space := plain.1.2
  cases blank : isAsciiWhitespace c with
  | false => rfl
  | true =>
    rw [isAsciiWhitespace] at blank
    simp only [Bool.or_eq_true, decide_eq_true_eq] at blank
    obtain (((rfl | rfl) | rfl) | rfl) | twelve := blank
    · exact absurd space (by decide)
    · exact absurd space (by decide)
    · exact absurd space (by decide)
    · exact absurd space (by decide)
    · simp [isWhitespace, twelve] at space

theorem PlainPath.ended {path : Text} (plain : PlainPath path) : Ended path := by
  have filled : path ≠ [] := by
    rintro rfl
    cases plain.1
  have space : ∀ c ∈ path, isWhitespace c = false := by
    intro c member
    have supported := plain.2 c member
    simp only [unsupported, Bool.or_eq_false_iff] at supported
    exact supported.1.2
  exact ⟨filled, fun c first => space c (List.mem_of_mem_head? first),
    fun c last => space c (List.mem_of_mem_getLast? last)⟩

theorem PlainPath.word {path : Text} (plain : PlainPath path) : Word path :=
  ⟨plain.ended.1, fun c member => ascii_whitespace (plain.2 c member)⟩

theorem PlainPath.quoted {path : Text} (plain : PlainPath path) :
    ∀ c ∈ path, (isControl c || quoting c) = false := by
  intro c member
  have supported := plain.2 c member
  simp only [unsupported, Bool.or_eq_false_iff] at supported
  rw [Bool.or_eq_false_iff]
  exact ⟨supported.1.1, supported.2⟩

theorem safe_path {value : String} (safe : safeSystemdPath value = .ok ()) :
    PlainPath value.toList ∧ ".." ∉ components value := by
  simp only [safeSystemdPath, bind_ok, exists_unit, check_ok] at safe
  obtain ⟨absolute, ⟨root, normal⟩, plain⟩ := safe
  refine ⟨⟨absolute, ?_⟩, ?_⟩
  · intro c member
    simpa using List.all_eq_true.mp plain c member
  · intro member
    have split := (List.mem_filter.mp member).1
    have first : splitSlash value = "" :: (splitSlash value).tail := by
      obtain ⟨rest, shape⟩ : ∃ rest, value.toList = '/' :: rest := by
        cases shape : value.toList with
        | nil => rw [shape] at absolute; cases absolute
        | cons c rest =>
          rw [shape] at absolute
          cases Option.some.inj absolute
          exact ⟨rest, rfl⟩
      rw [splitSlash, shape, List.splitOn_cons_eq_if_modifyHead, if_pos (by decide)]
      rfl
    rw [first, List.mem_cons] at split
    obtain empty | member := split
    · exact absurd empty (by decide)
    · exact (normal _ member).2.2 rfl

theorem validated_paths {error : String} {paths : List String} :
    validatePaths error paths = .ok () ↔ ∀ path ∈ paths, safeSystemdPath path = .ok () := by
  induction paths with
  | nil => simp [validatePaths]
  | cons path paths hypothesis =>
    simp only [validatePaths, bind_ok, exists_unit, mapError_ok, hypothesis, List.forall_mem_cons]

/-! ## The command that systemd shows -/

theorem word_of_all {text : Text} (filled : text ≠ [])
    (clean : text.all (fun c => !isAsciiWhitespace c) = true) : Word text := by
  refine ⟨filled, ?_⟩
  intro c member
  simpa using List.all_eq_true.mp clean c member

theorem server_word : Word "server".toList := word_of_all (by decide) (by decide)

theorem shown_body (path : Text) (status : List StatusField) :
    shownExecStart [path, "server".toList] status = '{' :: (fieldsText (("path".toList, path) ::
      ("argv[]".toList, path ++ ' ' :: "server".toList) ::
        status.map fun field => (field.key, field.value)) ++ ['}']) := by
  simp [shownExecStart, joinWords, List.intercalate]

/-- The scanner reads the command of an unstructured path back. -/
theorem fields_scanned {path : Text} (plain : PlainPath path) (clean : ';' ∉ path)
    (status : List StatusField) {fuel : ℕ} (enough : status.length + 2 ≤ fuel) :
    scanFields fuel ⟨none, []⟩ (fieldsText (("path".toList, path) ::
      ("argv[]".toList, path ++ ' ' :: "server".toList) ::
        status.map fun field => (field.key, field.value))) =
      .ok ⟨some path, [path ++ ' ' :: "server".toList]⟩ := by
  obtain ⟨fuel, rfl⟩ := Nat.exists_eq_add_of_le' enough
  have pathAdded : addField ⟨none, []⟩ "path".toList path = .ok ⟨some path, []⟩ := by
    rw [addField, if_pos rfl, words_word plain.word.1 plain.word.2]
    rfl
  have argvAdded : addField ⟨some path, []⟩ "argv[]".toList (path ++ ' ' :: "server".toList) =
      .ok ⟨some path, [path ++ ' ' :: "server".toList]⟩ := by
    rw [addField, if_neg (by decide), if_pos rfl]
    rfl
  have argvEnded : Ended (path ++ ' ' :: "server".toList) := by
    refine ⟨by simp, ?_, ?_⟩
    · intro c first
      have head : (path ++ ' ' :: "server".toList).head? = path.head? :=
        List.head?_append_of_ne_nil _ plain.ended.1
      rw [head] at first
      exact plain.ended.2.1 c first
    · intro c last
      rw [List.getLast?_append] at last
      cases Option.mem_some_iff.mp last
      decide
  have argvClean : ';' ∉ path ++ ' ' :: "server".toList := by
    rw [List.mem_append, not_or]
    exact ⟨clean, by decide⟩
  obtain ⟨first, _⟩ := @scan_value (fuel + status.length + 1) ⟨none, []⟩ "path".toList path
    (by decide) (List.all_eq_true.mp (by decide)) plain.ended clean
  obtain ⟨second, secondLast⟩ := @scan_value (fuel + status.length) ⟨some path, []⟩
    "argv[]".toList _ (by decide) (List.all_eq_true.mp (by decide)) argvEnded argvClean
  have shape : fuel + (status.length + 2) = fuel + status.length + 1 + 1 := by omega
  rw [shape, fieldsText, first, pathAdded]
  cases status with
  | nil => exact secondLast.trans argvAdded
  | cons next status =>
    have step := second (fieldsText ((next :: status).map fun field => (field.key, field.value)))
    rw [argvAdded] at step
    exact step.trans (scan_status (next :: status) _ (by omega))

/-- Nothing around the path has a character that systemd would quote or a brace. -/
def calm (c : Char) : Bool := !(isControl c || quoting c || c = '{' || c = '}')

theorem shown_calm {c : Char} {path : Text} {status : List StatusField}
    (member : c ∈ fieldsText (("path".toList, path) ::
      ("argv[]".toList, path ++ ' ' :: "server".toList) ::
        status.map fun field => (field.key, field.value))) :
    c ∈ path ∨ calm c = true := by
  have marks : ∀ c ∈ [' ', '=', ';'], calm c = true := List.all_eq_true.mp (by decide)
  have pathKey : ∀ c ∈ "path".toList, calm c = true := List.all_eq_true.mp (by decide)
  have argvKey : ∀ c ∈ "argv[]".toList, calm c = true := List.all_eq_true.mp (by decide)
  have server : ∀ c ∈ "server".toList, calm c = true := List.all_eq_true.mp (by decide)
  obtain mark | ⟨field, shown, member⟩ := mem_fieldsText member
  · exact .inr (marks c mark)
  · rw [List.mem_cons, List.mem_cons] at shown
    obtain rfl | rfl | shown := shown
    · rw [List.mem_append] at member
      obtain member | member := member
      · exact .inr (pathKey c member)
      · exact .inl member
    · simp only [List.mem_append, List.mem_cons] at member
      obtain member | member | member | member := member
      · exact .inr (argvKey c member)
      · exact .inl member
      · rw [member]
        exact .inr (by decide)
      · exact .inr (server c member)
    · obtain ⟨entry, _, rfl⟩ := List.mem_map.mp shown
      have plain := List.all_eq_true.mp entry.plain c member
      simp only [Bool.not_eq_true', Bool.or_eq_false_iff] at plain
      refine .inr ?_
      simp only [calm, Bool.not_eq_true', Bool.or_eq_false_iff]
      exact plain.1

/-- The path that the scanner reads stops at the first semicolon. -/
theorem path_cut {path more : Text} {fuel : ℕ} {fields : ExecFields} (plain : PlainPath path)
    (cut : ';' ∈ path)
    (scanned : scanFields (fuel + 1) ⟨none, []⟩
      (' ' :: ("path".toList ++ '=' :: (path ++ more))) = .ok fields) :
    ∃ first, first ≠ path ∧ fields.path = some first := by
  obtain ⟨first, front⟩ : ∃ first, first = path.takeWhile fun c => decide (c ≠ ';') := ⟨_, rfl⟩
  have semicolon : ';' ∉ first := by
    intro member
    rw [front] at member
    exact absurd (List.mem_takeWhile_imp member) (by decide)
  have shorter : first ≠ path := by
    intro same
    exact semicolon (same ▸ cut)
  have taken : (path ++ more).takeWhile (fun c => decide (c ≠ ';')) = first := by
    rw [List.takeWhile_append, if_neg, front]
    intro whole
    exact shorter (front.trans ((List.takeWhile_prefix _).eq_of_length whole))
  have firstPlain : PlainPath first := by
    rw [front]
    refine ⟨?_, fun c member => plain.2 c ((List.takeWhile_prefix _).subset member)⟩
    have absolute := plain.1
    cases shape : path with
    | nil => rw [shape] at absolute; cases absolute
    | cons c rest =>
      rw [shape] at absolute
      cases Option.some.inj absolute
      rfl
  have trimmed := trim_ended firstPlain.ended
  rw [scan_field (by decide) (List.all_eq_true.mp (by decide))
    (by rw [taken, trimmed]; exact firstPlain.ended.1), taken, trimmed, bind_ok] at scanned
  obtain ⟨between, added, others⟩ := scanned
  rw [addField, if_pos rfl, words_word firstPlain.word.1 firstPlain.word.2] at added
  cases added
  exact ⟨first, shorter, path_scanned fuel others rfl⟩

/-- The command is read back unless its path has a character that structures the field list. -/
theorem parse_shown {path : Text} (plain : PlainPath path) (status : List StatusField) :
    parseSystemdExecStart (shownExecStart [path, "server".toList] status) =
      .ok [path, "server".toList] ↔ path.all (fun c => !structural c) = true := by
  have quoted : ∀ c ∈ fieldsText (("path".toList, path) ::
      ("argv[]".toList, path ++ ' ' :: "server".toList) ::
        status.map fun field => (field.key, field.value)), (isControl c || quoting c) = false := by
    intro c member
    obtain own | calmly := shown_calm member
    · exact plain.quoted c own
    · simp only [calm, Bool.not_eq_true', Bool.or_eq_false_iff] at calmly
      rw [Bool.or_eq_false_iff]
      exact calmly.1.1
  rw [shown_body, parse_braced quoted]
  simp only [parseBody, bind_ok, exists_unit, check_ok]
  constructor
  · rintro ⟨unbraced, fields, scanned, result⟩
    rw [List.all_eq_true] at unbraced ⊢
    intro c member
    by_cases semicolon : c = ';'
    · rw [semicolon] at member
      obtain ⟨first, shorter, known⟩ := path_cut plain member scanned
      rw [known] at result
      simp only [bind_ok, exists_unit, check_ok] at result
      obtain ⟨_, head, same⟩ := result
      rw [Except.ok.inj same] at head
      exact absurd (Option.some.inj head).symm shorter
    · have braces := unbraced c (by simp [fieldsText, member])
      simpa [structural, semicolon] using braces
  · intro clean
    rw [List.all_eq_true] at clean
    have semicolon : ';' ∉ path := by
      intro member
      exact absurd (clean ';' member) (by decide)
    refine ⟨?_, ⟨some path, [path ++ ' ' :: "server".toList]⟩, ?_, ?_⟩
    · rw [List.all_eq_true]
      intro c member
      obtain own | calmly := shown_calm member
      · have free := clean c own
        simp only [structural, Bool.not_eq_true', Bool.or_eq_false_iff] at free
        simp [free]
      · simp only [calm, Bool.not_eq_true', Bool.or_eq_false_iff] at calmly
        simp [calmly]
    · refine fields_scanned plain semicolon status ?_
      have length := fieldsText_length (("path".toList, path) ::
        ("argv[]".toList, path ++ ' ' :: "server".toList) ::
          status.map fun field => (field.key, field.value))
      simp only [List.length_cons, List.length_map] at length
      omega
    · have joined : words (path ++ ' ' :: "server".toList) = [path, "server".toList] := by
        have both := @words_join [path, "server".toList] (by
          intro part member
          rw [List.mem_cons, List.mem_singleton] at member
          obtain rfl | rfl := member
          · exact plain.word
          · exact server_word)
        simpa [joinWords, List.intercalate] using both
      simp only [List.flatMap_cons, List.flatMap_nil, List.append_nil, joined, bind_ok,
        exists_unit, check_ok]
      exact ⟨List.cons_ne_nil _ _, rfl, trivial⟩

/-! ## The directives of the unit -/

def unitSettings : List (String × List String) :=
  [("Description", ["NazoAuth", "authorization", "server"]), ("After", ["network-online.target"]),
    ("Wants", ["network-online.target"]), ("StartLimitIntervalSec", ["60s"]),
    ("StartLimitBurst", ["5"])]

def limitSettings : List (String × List String) :=
  [("Restart", ["on-failure"]), ("RestartSec", ["2"]), ("TasksMax", ["512"]), ("MemoryMax", ["1G"]),
    ("CPUQuota", ["200%"]), ("NoNewPrivileges", ["true"]), ("PrivateTmp", ["true"]),
    ("PrivateDevices", ["true"]), ("ProtectSystem", ["strict"]), ("ProtectHome", ["true"]),
    ("ProtectKernelTunables", ["true"]), ("ProtectKernelModules", ["true"]),
    ("ProtectControlGroups", ["true"]), ("RestrictSUIDSGID", ["true"]),
    ("LockPersonality", ["true"]), ("CapabilityBoundingSet", []), ("AmbientCapabilities", [])]

def ownSettings (install : HostServiceInstall) : List (String × List String) :=
  [("User", [install.serviceUser]), ("Group", [install.serviceUser]),
    ("WorkingDirectory", [install.dataRoot]), ("ExecStart", [install.binary, "server"]),
    ("Environment", ["DEPLOYMENT_ID=" ++ install.deploymentId]),
    ("Environment", ["NAZOAUTH_SERVER_CONFIG_FILE=" ++ install.config]),
    ("Environment", ["DATA_DIR=" ++ install.dataRoot])]

def serviceSettings (install : HostServiceInstall) : List (String × List String) :=
  ("Type", ["simple"]) :: (ownSettings install ++ limitSettings ++
    [("ReadOnlyPaths", install.config :: install.secretPaths),
      ("ReadWritePaths", [install.dataRoot])])

/-- What each directive of the unit is to say, in the order of the unit. -/
def settings (install : HostServiceInstall) : List (String × List String) :=
  unitSettings ++ serviceSettings install ++ [("WantedBy", ["multi-user.target"])]

def settingWords (setting : String × List String) : Text × List Text :=
  (setting.1.toList, setting.2.map String.toList)

def settingLine (setting : String × List String) : UnitLine :=
  .directive setting.1 (" ".intercalate setting.2)

/-- The lines of the unit set what they are to set. -/
theorem unitLines_settings {install : HostServiceInstall} (secrets : install.secretPaths ≠ []) :
    unitLines install =
      [.comment "Managed by nazoauthctl", .section "Unit"] ++ unitSettings.map settingLine
        ++ ([.blank, .section "Service"] ++ (serviceSettings install).map settingLine
        ++ ([.blank, .section "Install"] ++
          [("WantedBy", ["multi-user.target"])].map settingLine)) := by
  have readable : " ".intercalate (install.config :: install.secretPaths) =
      install.config ++ " " ++ " ".intercalate install.secretPaths :=
    String.intercalate_cons_of_ne_nil secrets
  simp [unitLines, unitSettings, serviceSettings, ownSettings, limitSettings, settingLine,
    readable, String.append_assoc]

/-! ### Reading it -/

def keyText (key : Text) : Bool :=
  key.all (fun c => c ≠ '=' && c ≠ '\n') && key.head?.all fun c => c ≠ '#' && c ≠ ';' && c ≠ '['

def settable (setting : String × List String) : Prop :=
  setting.1.toList ≠ [] ∧ keyText setting.1.toList = true ∧ ∀ part ∈ setting.2, Word part.toList

theorem join_unbroken {parts : List Text} (plain : ∀ part ∈ parts, Word part) :
    ∀ c ∈ joinWords parts, c ≠ '\n' := by
  induction parts with
  | nil => simp [joinWords]
  | cons part parts hypothesis =>
    have here : ∀ c ∈ part, c ≠ '\n' := by
      rintro c member rfl
      exact absurd ((plain part (by simp)).2 _ member) (by decide)
    have rest := hypothesis fun other member => plain other (by simp [member])
    cases parts with
    | nil =>
      rw [joinWords, List.intercalate_singleton]
      exact here
    | cons next parts =>
      rw [join_cons]
      intro c member
      rw [List.mem_append, List.mem_cons] at member
      obtain member | rfl | member := member
      · exact here c member
      · decide
      · exact rest c member

theorem settable_line {setting : String × List String} (able : settable setting) :
    readDirective (settingLine setting).text = some (settingWords setting) ∧
      '\n' ∉ (settingLine setting).text := by
  obtain ⟨named, keyed, plain⟩ := able
  simp only [keyText, Bool.and_eq_true, List.all_eq_true, decide_eq_true_eq] at keyed
  have parted : ∀ part ∈ setting.2.map String.toList, Word part := by
    intro part member
    obtain ⟨word, known, rfl⟩ := List.mem_map.mp member
    exact plain word known
  have value : (" ".intercalate setting.2).toList = joinWords (setting.2.map String.toList) := by
    rw [String.toList_intercalate]
    rfl
  have text : (settingLine setting).text =
      setting.1.toList ++ '=' :: joinWords (setting.2.map String.toList) := by
    rw [settingLine, UnitLine.text, value]
  rw [text]
  constructor
  · have stops : ∀ c ∈ setting.1.toList, decide (c ≠ '=') = true := by
      intro c member
      simpa using (keyed.1 c member).1
    have plainHead : ¬((setting.1.toList ++ '=' :: joinWords (setting.2.map String.toList)).head?
        = some '#' ∨ (setting.1.toList ++ '=' :: joinWords (setting.2.map String.toList)).head?
        = some ';' ∨ (setting.1.toList ++ '=' :: joinWords (setting.2.map String.toList)).head?
        = some '[') := by
      rw [List.head?_append_of_ne_nil _ named]
      rintro (mark | mark | mark)
      · simp [mark] at keyed
      · simp [mark] at keyed
      · simp [mark] at keyed
    rw [readDirective, if_neg plainHead, List.dropWhile_append_of_pos stops,
      List.takeWhile_append_of_pos stops]
    simp [words_join parted, settingWords]
  · rw [List.mem_append, List.mem_cons, not_or, not_or]
    refine ⟨?_, by decide, ?_⟩
    · intro member
      exact (keyed.1 _ member).2 rfl
    · intro member
      exact join_unbroken parted _ member rfl

theorem directives_lines {lines : List UnitLine} (clean : ∀ line ∈ lines, '\n' ∉ line.text) :
    directives (renderLines lines) = lines.filterMap fun line => readDirective line.text := by
  induction lines with
  | nil => rfl
  | cons line lines hypothesis =>
    have here : ∀ c ∈ line.text, decide (c = '\n') = false := by
      intro c member
      rw [decide_eq_false_iff_not]
      rintro rfl
      exact clean line (by simp) member
    have rest := hypothesis fun other member => clean other (by simp [member])
    rw [directives] at rest ⊢
    rw [renderLines, List.splitOnP_append_cons_of_forall_mem here '\n' (by decide),
      List.filterMap_cons, List.filterMap_cons, rest]

theorem directives_settings {listed : List (String × List String)}
    (able : ∀ setting ∈ listed, settable setting) :
    (listed.map settingLine).filterMap (fun line => readDirective line.text) =
      listed.map settingWords := by
  rw [List.filterMap_map]
  induction listed with
  | nil => rfl
  | cons setting listed hypothesis =>
    have here : ((fun line : UnitLine => readDirective line.text) ∘ settingLine) setting =
        some (settingWords setting) := (settable_line (able setting (by simp))).1
    rw [List.filterMap_cons_some here, hypothesis fun other member => able other (by simp [member]),
      List.map_cons]

/-! ### Accepted installs -/

theorem scalar_word {name value : String} (valid : validateSystemdScalar name value = .ok ()) :
    Word value.toList := by
  rw [validateSystemdScalar, check_ok] at valid
  obtain ⟨filled, plain⟩ := valid
  refine ⟨by simpa using filled, ?_⟩
  intro c member
  exact ascii_whitespace (by simpa using List.all_eq_true.mp plain c member)

theorem safe_word {value : String} (safe : safeSystemdPath value = .ok ()) : Word value.toList :=
  (safe_path safe).1.word

theorem assigned_word {name value : String} (named : Word name.toList)
    (word : Word value.toList) : Word (name ++ value).toList := by
  rw [String.toList_append]
  refine ⟨by simp [named.1], ?_⟩
  intro c member
  rw [List.mem_append] at member
  obtain member | member := member
  · exact named.2 c member
  · exact word.2 c member

def literal (setting : String × List String) : Bool :=
  setting.1.toList ≠ [] && keyText setting.1.toList &&
    setting.2.all fun part => part.toList ≠ [] && part.toList.all fun c => !isAsciiWhitespace c

theorem literal_settable {listed : List (String × List String)}
    (literals : listed.all literal = true) : ∀ setting ∈ listed, settable setting := by
  intro setting member
  have checked := List.all_eq_true.mp literals setting member
  simp only [literal, Bool.and_eq_true, decide_eq_true_eq, List.all_eq_true] at checked
  obtain ⟨⟨named, keyed⟩, plain⟩ := checked
  refine ⟨named, keyed, ?_⟩
  intro part known
  exact word_of_all (plain part known).1 (List.all_eq_true.mpr (plain part known).2)

theorem accepted_paths {install : HostServiceInstall}
    (accepted : validateHostServiceInstall install = .ok ()) :
    safeSystemdPath install.binary = .ok () ∧ safeSystemdPath install.config = .ok () ∧
      safeSystemdPath install.dataRoot = .ok () ∧ install.secretPaths ≠ [] ∧
      (∀ path ∈ install.secretPaths, safeSystemdPath path = .ok ()) ∧
      Word install.serviceUser.toList ∧ Word install.deploymentId.toList := by
  simp only [validateHostServiceInstall, bind_ok, exists_unit, check_ok, validated_paths,
    List.forall_mem_singleton] at accepted
  obtain ⟨_, user, id, _, _, binary, config, dataRoot, some, secrets⟩ := accepted
  exact ⟨binary, config, dataRoot, some, secrets, scalar_word user, scalar_word id⟩

theorem settable_words {key : String} {parts : List String}
    (keyed : key.toList ≠ [] ∧ keyText key.toList) (plain : ∀ part ∈ parts, Word part.toList) :
    settable (key, parts) :=
  ⟨keyed.1, keyed.2, plain⟩

theorem settable_one {key value : String} (keyed : key.toList ≠ [] ∧ keyText key.toList)
    (word : Word value.toList) : settable (key, [value]) :=
  settable_words keyed (List.forall_mem_singleton.mpr word)

theorem settings_settable {install : HostServiceInstall}
    (accepted : validateHostServiceInstall install = .ok ()) :
    ∀ setting ∈ settings install, settable setting := by
  obtain ⟨binary, config, dataRoot, _, secrets, user, id⟩ := accepted_paths accepted
  have named : ∀ {name : String}, name.toList ≠ [] ∧
      name.toList.all (fun c => !isAsciiWhitespace c) = true → Word name.toList :=
    fun plain => word_of_all plain.1 plain.2
  have own : ∀ setting ∈ ownSettings install, settable setting := by
    simp only [ownSettings, List.forall_mem_cons, List.not_mem_nil, false_implies, implies_true,
      and_true]
    refine ⟨settable_one (by decide) user, settable_one (by decide) user,
      settable_one (by decide) (safe_word dataRoot), settable_words (by decide) ?_,
      settable_one (by decide) (assigned_word (named (by decide)) id),
      settable_one (by decide) (assigned_word (named (by decide)) (safe_word config)),
      settable_one (by decide) (assigned_word (named (by decide)) (safe_word dataRoot))⟩
    simp only [List.forall_mem_cons, List.not_mem_nil, false_implies, implies_true, and_true]
    exact ⟨safe_word binary, server_word⟩
  have readable : settable ("ReadOnlyPaths", install.config :: install.secretPaths) := by
    refine settable_words (by decide) ?_
    rw [List.forall_mem_cons]
    exact ⟨safe_word config, fun path member => safe_word (secrets path member)⟩
  have writable : settable ("ReadWritePaths", [install.dataRoot]) :=
    settable_one (by decide) (safe_word dataRoot)
  have unit := @literal_settable unitSettings (by decide)
  have limits := @literal_settable limitSettings (by decide)
  have ends := @literal_settable [("Type", ["simple"]), ("WantedBy", ["multi-user.target"])]
    (by decide)
  intro setting member
  simp only [settings, serviceSettings, List.mem_append, List.mem_cons, List.not_mem_nil,
    or_false] at member
  obtain (member | rfl | (member | member) | rfl | rfl) | rfl := member
  · exact unit setting member
  · exact ends _ (by simp)
  · exact own setting member
  · exact limits setting member
  · exact readable
  · exact writable
  · exact ends _ (by simp)

/-- The rendered unit gives each directive exactly its value. -/
theorem unit_directives {install : HostServiceInstall}
    (accepted : validateHostServiceInstall install = .ok ()) :
    renderHostServiceUnit install = .ok (renderLines (unitLines install)) ∧
      directives (renderLines (unitLines install)) = (settings install).map settingWords := by
  have able := settings_settable accepted
  have heading : ∀ line ∈ [UnitLine.comment "Managed by nazoauthctl", .section "Unit", .blank,
      .section "Service", .section "Install"],
      '\n' ∉ line.text ∧ readDirective line.text = none := by
    simp only [List.forall_mem_cons, List.not_mem_nil, false_implies, implies_true, and_true]
    decide
  have setting : ∀ listed ⊆ settings install,
      (listed.map settingLine).filterMap (fun line => readDirective line.text) =
        listed.map settingWords :=
    fun listed part => directives_settings fun setting member => able setting (part member)
  have clean : ∀ line ∈ unitLines install, '\n' ∉ line.text := by
    have set : ∀ line ∈ (settings install).map settingLine, '\n' ∉ line.text := by
      intro line member
      obtain ⟨setting, known, rfl⟩ := List.mem_map.mp member
      exact (settable_line (able setting known)).2
    rw [unitLines_settings (accepted_paths accepted).2.2.2.1]
    intro line member
    have either : line ∈ [UnitLine.comment "Managed by nazoauthctl", .section "Unit", .blank,
        .section "Service", .section "Install"] ∨ line ∈ (settings install).map settingLine := by
      simp only [settings, List.map_append, List.mem_append, List.mem_cons, List.not_mem_nil,
        or_false] at member ⊢
      tauto
    obtain member | member := either
    · exact (heading line member).1
    · exact set line member
  constructor
  · rw [renderHostServiceUnit, accepted]
    rfl
  · rw [directives_lines clean, unitLines_settings (accepted_paths accepted).2.2.2.1]
    simp only [List.filterMap_append]
    rw [setting unitSettings (by simp [settings]),
      setting (serviceSettings install) (by simp [settings]),
      setting [("WantedBy", ["multi-user.target"])] (by simp [settings])]
    simp [settings, heading]

/-! ## The account -/

def hexDigit (c : Char) : Bool := "0123456789abcdef".toList.contains c

/-- A generated deployment: `deploy-` and a UUID without hyphens. -/
structure GeneratedId where
  digits : Text
  length : digits.length = 32
  hex : digits.all hexDigit = true

def GeneratedId.text (id : GeneratedId) : Text := "deploy-".toList ++ id.digits

def trimStartMatches (mark : Text) : ℕ → Text → Text
  | 0, text => text
  | fuel + 1, text =>
    if mark.isPrefixOf text then trimStartMatches mark fuel (text.drop mark.length) else text

def deploymentSuffix (id : Text) : Text := trimStartMatches "deploy-".toList id.length id

def systemdServiceUser (id : Text) : Text :=
  "nazoauth-".toList ++ (deploymentSuffix id).take 12

/-- The unit that an install of the deployment is prepared with. -/
def runtimeObject (id : Text) : Text :=
  "nazoauth-".toList ++ (deploymentSuffix id ++ ".service".toList)

def managedServiceUserComment (service : Text) : Text := "nazoauthctl ".toList ++ service

/-- The user that `remove_managed_service_user` derives from the unit. -/
def removedUser (service : Text) : Except String Text := do
  check (".service".toList.isSuffixOf service)
    "managed NazoAuth unit name has no .service suffix"
  check ("nazoauth-".toList.isPrefixOf (service.take (service.length - 8)))
    "managed NazoAuth unit name has an invalid prefix"
  .ok ("nazoauth-".toList ++ ((service.take (service.length - 8)).drop 9).take 12)

/-- The accounts by user, each with the comment field of its passwd entry. -/
abbrev Accounts := Text → Option Text

/-- The account part of `install_host_service`. -/
def claimServiceUser (accounts : Accounts) (user service : Text) : Except String Accounts :=
  match accounts user with
  | none => .ok (Function.update accounts user (some (managedServiceUserComment service)))
  | some comment => do
    check (comment = managedServiceUserComment service)
      "refusing to reuse a systemd service user without nazoauthctl ownership proof"
    .ok accounts

def removeAccount (accounts : Accounts) (user service : Text) : Except String Accounts :=
  match accounts user with
  | none => .ok accounts
  | some comment => do
    check (comment = managedServiceUserComment service)
      "refusing to remove a systemd service user without nazoauthctl ownership proof"
    .ok (Function.update accounts user none)

def removeManagedServiceUser (accounts : Accounts) (service : Text) : Except String Accounts := do
  let user ← removedUser service
  removeAccount accounts user service

inductive AccountStep where
  | install (id : GeneratedId)
  | remove (id : GeneratedId)

/-- A step that fails leaves the accounts as they are. -/
def AccountStep.run (accounts : Accounts) : AccountStep → Accounts
  | .install id =>
    ((claimServiceUser accounts (systemdServiceUser id.text) (runtimeObject id.text)).toOption).getD
      accounts
  | .remove id =>
    ((removeManagedServiceUser accounts (runtimeObject id.text)).toOption).getD accounts

def runAccounts (accounts : Accounts) (steps : List AccountStep) : Accounts :=
  steps.foldl AccountStep.run accounts

/-- The account of the deployment names the deployment's unit. -/
def AccountOwned (accounts : Accounts) (id : GeneratedId) : Prop :=
  accounts (systemdServiceUser id.text) = some (managedServiceUserComment (runtimeObject id.text))

theorem trim_marked {mark rest : Text} (fuel : ℕ) (other : mark.isPrefixOf rest = false) :
    trimStartMatches mark (fuel + 1 + 1) (mark ++ rest) = rest := by
  have start : mark.isPrefixOf (mark ++ rest) = true :=
    List.isPrefixOf_iff_prefix.mpr (List.prefix_append _ _)
  rw [trimStartMatches, if_pos start, List.drop_left, trimStartMatches, if_neg]
  rw [other]
  exact Bool.false_ne_true

theorem suffix_generated (id : GeneratedId) : deploymentSuffix id.text = id.digits := by
  have other : "deploy-".toList.isPrefixOf id.digits = false := by
    cases starts : "deploy-".toList.isPrefixOf id.digits with
    | false => rfl
    | true =>
      have member : 'p' ∈ id.digits :=
        (List.isPrefixOf_iff_prefix.mp starts).subset (by decide)
      exact absurd (List.all_eq_true.mp id.hex 'p' member) (by decide)
  have long : id.text.length = 37 + 1 + 1 := by
    have seven : "deploy-".toList.length = 7 := by decide
    unfold GeneratedId.text
    rw [List.length_append, id.length, seven]
  unfold deploymentSuffix
  rw [long]
  exact @trim_marked "deploy-".toList id.digits 37 other

theorem append_middle {front ending a b : Text}
    (same : front ++ (a ++ ending) = front ++ (b ++ ending)) : a = b :=
  List.append_cancel_right (List.append_cancel_left same)

theorem object_inj {a b : GeneratedId} (same : runtimeObject a.text = runtimeObject b.text) :
    a = b := by
  unfold runtimeObject at same
  rw [suffix_generated, suffix_generated] at same
  have digits := @append_middle "nazoauth-".toList ".service".toList a.digits b.digits same
  obtain ⟨digitsA, lengthA, hexA⟩ := a
  obtain ⟨digitsB, lengthB, hexB⟩ := b
  subst digits
  rfl

theorem comment_inj {a b : GeneratedId} (same : managedServiceUserComment (runtimeObject a.text) =
    managedServiceUserComment (runtimeObject b.text)) : a = b := by
  unfold managedServiceUserComment at same
  exact object_inj (List.append_cancel_left same)

theorem stem_taken (front middle ending : Text) :
    ending.isSuffixOf (front ++ (middle ++ ending)) = true ∧
      (front ++ (middle ++ ending)).take ((front ++ (middle ++ ending)).length - ending.length) =
        front ++ middle ∧ front.isPrefixOf (front ++ middle) = true ∧
      (front ++ middle).drop front.length = middle := by
  rw [← List.append_assoc]
  refine ⟨List.isSuffixOf_iff_suffix.mpr (List.suffix_append _ _), ?_,
    List.isPrefixOf_iff_prefix.mpr (List.prefix_append _ _), List.drop_left⟩
  have short : ((front ++ middle) ++ ending).length - ending.length = (front ++ middle).length := by
    rw [List.length_append, Nat.add_sub_cancel]
  rw [short, List.take_left]

/-- Both derivations of the account's name agree. -/
theorem removed_user (id : GeneratedId) :
    removedUser (runtimeObject id.text) = .ok (systemdServiceUser id.text) := by
  have eight : ".service".toList.length = 8 := by decide
  have nine : "nazoauth-".toList.length = 9 := by decide
  obtain ⟨ends, stem, starts, rest⟩ :=
    stem_taken "nazoauth-".toList (deploymentSuffix id.text) ".service".toList
  rw [eight] at stem
  rw [nine] at rest
  unfold removedUser runtimeObject systemdServiceUser
  rw [ends, stem, starts, rest]
  rfl

/-! ### Runs -/

theorem claimed_account {accounts after : Accounts} {user service : Text}
    (claimed : claimServiceUser accounts user service = .ok after) :
    after = Function.update accounts user (some (managedServiceUserComment service)) ∧
      ∀ comment ∈ accounts user, comment = managedServiceUserComment service := by
  rw [claimServiceUser] at claimed
  cases known : accounts user with
  | none =>
    rw [known] at claimed
    cases claimed
    exact ⟨rfl, by simp⟩
  | some comment =>
    rw [known] at claimed
    simp only [bind_ok, exists_unit, check_ok, Except.ok.injEq] at claimed
    obtain ⟨own, rfl⟩ := claimed
    refine ⟨?_, by simpa using own⟩
    rw [← own, ← known, Function.update_eq_self]

theorem removed_account {accounts after : Accounts} {user service : Text}
    (removed : removeAccount accounts user service = .ok after) :
    after = Function.update accounts user none ∧
      ∀ comment ∈ accounts user, comment = managedServiceUserComment service := by
  rw [removeAccount] at removed
  cases known : accounts user with
  | none =>
    rw [known] at removed
    cases removed
    refine ⟨?_, by simp⟩
    rw [← known, Function.update_eq_self]
  | some comment =>
    rw [known] at removed
    simp only [bind_ok, exists_unit, check_ok, Except.ok.injEq] at removed
    obtain ⟨own, rfl⟩ := removed
    exact ⟨rfl, by simpa using own⟩

theorem removed_by_unit {accounts : Accounts} (id : GeneratedId) :
    removeManagedServiceUser accounts (runtimeObject id.text) =
      removeAccount accounts (systemdServiceUser id.text) (runtimeObject id.text) := by
  unfold removeManagedServiceUser
  rw [removed_user]
  rfl

/-- An account that belongs to one deployment is not touched for another. -/
theorem owned_other {accounts after : Accounts} {id other : GeneratedId} (different : other ≠ id)
    (owned : AccountOwned accounts id) {value : Option Text}
    (change : after = Function.update accounts (systemdServiceUser other.text) value ∧
      ∀ comment ∈ accounts (systemdServiceUser other.text),
        comment = managedServiceUserComment (runtimeObject other.text)) :
    AccountOwned after id ∧ systemdServiceUser other.text ≠ systemdServiceUser id.text := by
  obtain ⟨updated, own⟩ := change
  have apart : systemdServiceUser other.text ≠ systemdServiceUser id.text := by
    intro same
    have here : accounts (systemdServiceUser other.text) =
        some (managedServiceUserComment (runtimeObject id.text)) := by
      rw [same]
      exact owned
    exact different (comment_inj (own _ here)).symm
  refine ⟨?_, apart⟩
  unfold AccountOwned
  rw [updated, Function.update_of_ne apart.symm]
  exact owned

theorem claimed_owned {accounts after : Accounts} {id : GeneratedId}
    (claimed : claimServiceUser accounts (systemdServiceUser id.text) (runtimeObject id.text) =
      .ok after) : AccountOwned after id := by
  unfold AccountOwned
  rw [(claimed_account claimed).1, Function.update_self]

theorem owned_step {accounts : Accounts} {id : GeneratedId} {step : AccountStep}
    (kept : step ≠ .remove id) (owned : AccountOwned accounts id) :
    AccountOwned (step.run accounts) id := by
  cases step with
  | install other =>
    cases claimed : claimServiceUser accounts (systemdServiceUser other.text)
        (runtimeObject other.text) with
    | error message =>
      rw [AccountStep.run, claimed]
      exact owned
    | ok after =>
      rw [AccountStep.run, claimed]
      by_cases same : other = id
      · subst same
        exact claimed_owned claimed
      · exact (owned_other same owned (claimed_account claimed)).1
  | remove other =>
    have different : other ≠ id := by
      rintro rfl
      exact kept rfl
    rw [AccountStep.run, removed_by_unit]
    cases removed : removeAccount accounts (systemdServiceUser other.text)
        (runtimeObject other.text) with
    | error message => exact owned
    | ok after => exact (owned_other different owned (removed_account removed)).1

theorem owned_run {id : GeneratedId} {steps : List AccountStep} (kept : .remove id ∉ steps) :
    ∀ {accounts : Accounts}, AccountOwned accounts id →
      AccountOwned (runAccounts accounts steps) id := by
  induction steps with
  | nil =>
    intro accounts owned
    exact owned
  | cons step steps hypothesis =>
    intro accounts owned
    rw [List.mem_cons, not_or] at kept
    exact hypothesis kept.2 (owned_step (Ne.symm kept.1) owned)

/-! ## Operable installs -/

/-- The condition under which the installed unit can be read back as a server's. -/
def recognizable (binary : String) : Bool :=
  (binary.toList.all fun c => !structural c) && serverFileName (fileName binary)

theorem find_setting {before after : List (String × List String)} {key : String}
    {parts : List String} (new : key ∉ before.map (·.1)) :
    ((before ++ (key, parts) :: after).map settingWords).find?
        (fun directive => directive.1 = key.toList) = some (settingWords (key, parts)) := by
  induction before with
  | nil => exact List.find?_cons_of_pos (decide_eq_true rfl)
  | cons setting before hypothesis =>
    have apart : key ≠ setting.1 ∧ key ∉ before.map (·.1) := not_or.mp fun either =>
      new (List.mem_cons.mpr either)
    have other : decide ((settingWords setting).1 = key.toList) = false := by
      rw [decide_eq_false_iff_not]
      intro same
      exact apart.1 (String.toList_inj.mp same.symm)
    rw [List.cons_append, List.map_cons, List.find?_cons]
    simp only [other]
    exact hypothesis apart.2

theorem execStart_rendered {install : HostServiceInstall}
    (accepted : validateHostServiceInstall install = .ok ()) :
    execStartOf (renderLines (unitLines install)) = [install.binary.toList, "server".toList] := by
  have split : settings install =
      (unitSettings ++ [("Type", ["simple"]), ("User", [install.serviceUser]),
        ("Group", [install.serviceUser]), ("WorkingDirectory", [install.dataRoot])]) ++
      ("ExecStart", [install.binary, "server"]) :: ((ownSettings install).drop 4 ++
        limitSettings ++ [("ReadOnlyPaths", install.config :: install.secretPaths),
          ("ReadWritePaths", [install.dataRoot]), ("WantedBy", ["multi-user.target"])]) := rfl
  have new : "ExecStart" ∉ ["Description", "After", "Wants", "StartLimitIntervalSec",
      "StartLimitBurst", "Type", "User", "Group", "WorkingDirectory"] := by
    decide
  rw [execStartOf, (unit_directives accepted).2, split, find_setting new]
  rfl

theorem verified_shown {install : HostServiceInstall} (status : List StatusField)
    (accepted : validateHostServiceInstall install = .ok ()) :
    (parseSystemdExecStart (shownExecStart [install.binary.toList, "server".toList] status) =
        .ok [install.binary.toList, "server".toList] ∧
      serverCommandVerified (shownExecStart [install.binary.toList, "server".toList] status) =
        true ∧
      acceptReplacementTarget (shownExecStart [install.binary.toList, "server".toList] status)
        [install.binary, "server"] = .ok ()) ↔ recognizable install.binary = true := by
  obtain ⟨plain, normal⟩ := safe_path (accepted_paths accepted).1
  have parsed := parse_shown plain status
  have argv : isNazoauthServerArgv [install.binary.toList, "server".toList] =
      serverFileName (fileName install.binary) := by
    simp [isNazoauthServerArgv]
  rw [recognizable, Bool.and_eq_true]
  constructor
  · rintro ⟨read, verified, _⟩
    refine ⟨parsed.mp read, ?_⟩
    rw [serverCommandVerified, read] at verified
    exact argv.symm.trans verified
  · rintro ⟨clean, named⟩
    have read := parsed.mpr clean
    refine ⟨read, ?_, ?_⟩
    · rw [serverCommandVerified, read]
      exact argv.trans named
    · simp only [acceptReplacementTarget, systemdUnitExecutable, List.head?_cons, read, bind_ok,
        exists_unit, check_ok]
      refine ⟨⟨plain.1, normal, named, rfl⟩, install.binary, ⟨_, rfl, argv.trans named, ?_⟩, rfl⟩
      simp

/-- Every accepted install gives a unit with the intended directives and an account that stays
with its deployment. The unit is known again as a server's exactly if its binary is named as one
and no character of the path structures what systemd shows. -/
theorem accepted_install_operable {install : HostServiceInstall}
    (accepted : validateHostServiceInstall install = .ok ()) :
    (∃ unit, renderHostServiceUnit install = .ok unit ∧
      directives unit = (settings install).map settingWords ∧
      ∀ status : List StatusField,
        (parseSystemdExecStart (shownExecStart (execStartOf unit) status) =
            .ok [install.binary.toList, "server".toList] ∧
          serverCommandVerified (shownExecStart (execStartOf unit) status) = true ∧
          acceptReplacementTarget (shownExecStart (execStartOf unit) status)
            [install.binary, "server"] = .ok ()) ↔ recognizable install.binary = true) ∧
    ∀ id : GeneratedId,
      removedUser (runtimeObject id.text) = .ok (systemdServiceUser id.text) ∧
      ∀ accounts claimed, claimServiceUser accounts (systemdServiceUser id.text)
          (runtimeObject id.text) = .ok claimed →
        ∀ steps, .remove id ∉ steps → AccountOwned (runAccounts claimed steps) id ∧
          (∀ other ≠ id, ∀ next, claimServiceUser (runAccounts claimed steps)
              (systemdServiceUser other.text) (runtimeObject other.text) = .ok next →
            systemdServiceUser other.text ≠ systemdServiceUser id.text ∧ AccountOwned next id) ∧
          (∀ other ≠ id, ∀ next, removeManagedServiceUser (runAccounts claimed steps)
              (runtimeObject other.text) = .ok next → AccountOwned next id) ∧
          removeManagedServiceUser (runAccounts claimed steps) (runtimeObject id.text) =
            .ok (Function.update (runAccounts claimed steps) (systemdServiceUser id.text)
              none) := by
  obtain ⟨rendered, directed⟩ := unit_directives accepted
  refine ⟨⟨_, rendered, directed, ?_⟩, ?_⟩
  · intro status
    rw [execStart_rendered accepted]
    exact verified_shown status accepted
  · intro id
    refine ⟨removed_user id, ?_⟩
    intro accounts claimed taken steps kept
    have owned := owned_run kept (claimed_owned taken)
    refine ⟨owned, ?_, ?_, ?_⟩
    · intro other different next reused
      have apart := owned_other different owned (claimed_account reused)
      exact ⟨apart.2, apart.1⟩
    · intro other different next removed
      rw [removed_by_unit] at removed
      exact (owned_other different owned (removed_account removed)).1
    · rw [removed_by_unit, removeAccount, owned]
      simp [check, bind, Except.bind]

def plainInstall : HostServiceInstall where
  serviceName := "nazoauth-0198f2c0a1b27c3d8e4f5a6b7c8d9e0f.service"
  deploymentId := "deploy-0198f2c0a1b27c3d8e4f5a6b7c8d9e0f"
  serviceUser := "nazoauth-0198f2c0a1b2"
  sourceBinary := "/var/lib/nazoauthctl/artifacts/nazoauth"
  binary := "/opt/nazoauth/nazoauth"
  config := "/etc/nazoauth/config.yaml"
  dataRoot := "/var/lib/nazoauth"
  secretPaths := ["/etc/nazoauth/mfa-totp-key"]

theorem plain_install_operable :
    ∃ unit, renderHostServiceUnit plainInstall = .ok unit ∧ ∀ status : List StatusField,
      parseSystemdExecStart (shownExecStart (execStartOf unit) status) =
          .ok ["/opt/nazoauth/nazoauth".toList, "server".toList] ∧
        serverCommandVerified (shownExecStart (execStartOf unit) status) = true := by
  obtain ⟨⟨unit, rendered, _, read⟩, _⟩ :=
    accepted_install_operable (show validateHostServiceInstall plainInstall = .ok () from rfl)
  refine ⟨unit, rendered, ?_⟩
  intro status
  obtain ⟨argv, verified, _⟩ := (read status).mpr rfl
  exact ⟨argv, verified⟩

def semicolonInstall : HostServiceInstall :=
  { plainInstall with binary := "/opt/nazo;auth/nazoauth" }

/-- A semicolon is accepted in the path and then ends the path that the scanner reads. -/
theorem semicolon_install_unreadable :
    validateHostServiceInstall semicolonInstall = .ok () ∧
      ∃ unit, renderHostServiceUnit semicolonInstall = .ok unit ∧
        parseSystemdExecStart (shownExecStart (execStartOf unit) []) =
          .error "systemd ExecStart contains a malformed field" ∧
        serverCommandVerified (shownExecStart (execStartOf unit) []) = false := by
  refine ⟨rfl, renderLines (unitLines semicolonInstall), rfl, ?_⟩
  rw [execStart_rendered rfl]
  exact ⟨rfl, rfl⟩

end NazoAuthCtl.SystemdUnits
