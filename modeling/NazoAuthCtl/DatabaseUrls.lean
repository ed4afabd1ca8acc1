import NazoAuthCtl.InstallAdmission
import NazoAuthCtl.PercentCoding

/-!
# Credentials in database URLs

An install writes the password with a strict encoder, recovery writes it back
through the URL library's encoder of the userinfo, which keeps the percent sign.
Both texts are read by one decoder. The libraries for URLs and percent-encoding
are parameters, with what they document about URLs of the plain kind that an
admitted endpoint gives.
-/

set_option autoImplicit false
set_option linter.all false

namespace NazoAuthCtl.DatabaseUrls

open InstallAdmission (Bytes ExternalEndpoint AdmittedDatabase postgresToken trim)
open StateDocument (isWhitespace)
open PercentCoding (encode decode hasEscape utf8)

structure Url where
  scheme : String
  username : String
  password : Option String
  host : Option String
  port : Option UInt16
  path : String
  deriving DecidableEq

/-- The libraries for URLs and for percent-encoded text. -/
structure UrlCrate where
  parse : String → Option Url
  text : Url → String
  setPath : Url → String → Url
  setPassword : Url → Option String → Option Url
  decode : String → Option String

/-! ## The functions of the source -/

def unreserved (byte : UInt8) : Bool :=
  (65 ≤ byte && byte ≤ 90) || (97 ≤ byte && byte ≤ 122) || (48 ≤ byte && byte ≤ 57)
    || byte = 45 || byte = 46 || byte = 95 || byte = 126

def percentEncodeCredential (credential : Bytes) : String :=
  String.ofList (encode unreserved credential)

def postgresUrl (endpoint : ExternalEndpoint) (password : Bytes) : String :=
  "postgresql://" ++ endpoint.user ++ ":" ++ percentEncodeCredential password ++ "@" ++
    endpoint.host ++ ":" ++ toString endpoint.port.toNat ++ "/" ++ endpoint.name

structure PostgresConnection where
  urlWithoutPassword : Url
  password : String
  deriving DecidableEq

section source

variable (crate : UrlCrate)

def withDatabase (connection : PostgresConnection) (database : String) : PostgresConnection :=
  { connection with
    urlWithoutPassword := crate.setPath connection.urlWithoutPassword ("/" ++ database) }

def withPasswordUrl (connection : PostgresConnection) : Except String String :=
  match crate.setPassword connection.urlWithoutPassword (some connection.password) with
  | none => .error "cannot restore database password"
  | some url => .ok (crate.text url)

def readConnection (text : String) : Except String PostgresConnection :=
  match crate.parse (trim text) with
  | none => .error "database URL is invalid"
  | some url =>
    if url.scheme ≠ "postgres" ∧ url.scheme ≠ "postgresql" then
      .error "database URL is not PostgreSQL"
    else
      match url.password with
      | none => .error "database URL has no password"
      | some encoded =>
        match crate.decode encoded with
        | none => .error "database URL password is not valid percent-encoding"
        | some password =>
          if password.toList.any fun c => c = '\r' || c = '\n' || c = '\x00' then
            .error "database password is invalid"
          else
            match crate.setPassword url none with
            | none => .error "cannot remove database password"
            | some url => .ok ⟨url, password⟩

/-- `postgres_connection` on the bytes of the file. -/
def postgresConnection (path : String) (file : ByteArray) : Except String PostgresConnection :=
  if 4096 < file.size then .error s!"database URL exceeds the 4096-byte limit: {path}"
  else
    match String.fromUTF8? file with
    | none => .error "invalid utf-8 sequence"
    | some text => readConnection crate text

/-- What a recovery writes in place of the URL file that it has read. -/
def rewrite (path : String) (file : ByteArray) (database : String) : Except String ByteArray :=
  match postgresConnection crate path file with
  | .error error => .error error
  | .ok connection =>
    match withPasswordUrl crate (withDatabase crate connection database) with
    | .error error => .error error
    | .ok text => .ok text.toByteArray

/-- One recovery after the other. -/
def rewrites (path : String) : ByteArray → List String → Except String ByteArray
  | file, [] => .ok file
  | file, database :: databases =>
    match rewrite crate path file database with
    | .error error => .error error
    | .ok file => rewrites path file databases

end source

/-! ## URLs of admitted endpoints -/

/-- A DNS name or an IPv4 literal is of this kind. -/
def PlainHost (host : String) : Prop :=
  host ≠ "" ∧ host.toList.all fun c => c.isAlphanum || c = '-' || c = '.'

/-- What the userinfo set leaves as it is. -/
def userinfo (byte : UInt8) : Bool :=
  33 ≤ byte && byte ≤ 126 && !("\"#<>?`\x7b\x7d/:;=@[\\]^|".toList.map fun c =>
    UInt8.ofNat c.toNat).contains byte

def userinfoChar (c : Char) : Bool := c.toNat < 128 && userinfo (UInt8.ofNat c.toNat)

def urlText (url : Url) : String :=
  url.scheme ++ "://" ++ url.username ++
    (match url.password with
      | none => ""
      | some password => ":" ++ password) ++
    "@" ++ url.host.getD "" ++
    (match url.port with
      | none => ""
      | some port => ":" ++ toString port.toNat) ++ url.path

def plainUrl (endpoint : ExternalEndpoint) (password : Option String) (database : String) : Url where
  scheme := "postgresql"
  username := endpoint.user
  password := password
  host := some endpoint.host
  port := some endpoint.port
  path := "/" ++ database

/-- The endpoint and the texts of a URL whose parts need no encoding. -/
structure Plain (endpoint : ExternalEndpoint) (password : Option String) (database : String) :
    Prop where
  user : postgresToken endpoint.user
  host : PlainHost endpoint.host
  database : postgresToken database
  password : ∀ text, password = some text → text ≠ "" ∧ text.toList.all userinfoChar

def passwordBytes (password : String) : Bytes := utf8 password.toList

/-- What `Url::set_password` keeps of a password. An empty one is none. -/
def storedPassword (password : String) : Option String :=
  if password = "" then none else some (String.ofList (encode userinfo (passwordBytes password)))

def lenientDecode (text : String) : Option String :=
  String.fromUTF8? (ByteArray.mk (decode text.toList).toArray)

/-- What the libraries document, for plain URLs. -/
structure UrlCrate.Documented (crate : UrlCrate) : Prop where
  text : ∀ endpoint password database, Plain endpoint password database →
    crate.text (plainUrl endpoint password database) = urlText (plainUrl endpoint password database)
  parse : ∀ endpoint password database, Plain endpoint password database →
    crate.parse (urlText (plainUrl endpoint password database)) =
      some (plainUrl endpoint password database)
  setPath : ∀ endpoint password database other, Plain endpoint password database →
    postgresToken other → crate.setPath (plainUrl endpoint password database) ("/" ++ other) =
      plainUrl endpoint password other
  removePassword : ∀ endpoint password database, Plain endpoint password database →
    crate.setPassword (plainUrl endpoint password database) none =
      some (plainUrl endpoint none database)
  setPassword : ∀ endpoint password database other, Plain endpoint password database →
    crate.setPassword (plainUrl endpoint password database) (some other) =
      some (plainUrl endpoint (storedPassword other) database)
  decode : ∀ text, crate.decode text = lenientDecode text

/-! ## Texts and their sizes -/

theorem toByteArray_eq (text : String) :
    text.toByteArray = ByteArray.mk (passwordBytes text).toArray := by
  have same : text.toByteArray = text.toList.utf8Encode := String.utf8Encode_toList.symm
  rw [same, passwordBytes, utf8, List.utf8Encode]
  apply ByteArray.ext
  simp

theorem fromUTF8_toByteArray (text : String) : String.fromUTF8? text.toByteArray = some text := by
  rw [String.fromUTF8?, dif_pos text.isValidUTF8]
  rfl

theorem fromUTF8_some {bytes : ByteArray} {text : String}
    (read : String.fromUTF8? bytes = some text) : text.toByteArray = bytes := by
  rw [String.fromUTF8?] at read
  split_ifs at read
  · rw [← Option.some.inj read]
    rfl

theorem lenientDecode_bytes {text password : String} (read : lenientDecode text = some password) :
    passwordBytes password = decode text.toList := by
  have same := fromUTF8_some read
  rw [toByteArray_eq] at same
  have arrays := congrArg ByteArray.data same
  exact congrArg Array.toList arrays

theorem lenientDecode_some {text password : String}
    (same : decode text.toList = passwordBytes password) :
    lenientDecode text = some password := by
  rw [lenientDecode, same, ← toByteArray_eq, fromUTF8_toByteArray]

theorem passwordBytes_length (text : String) :
    (passwordBytes text).length = text.utf8ByteSize := by
  have same := congrArg ByteArray.size (toByteArray_eq text)
  exact same.symm

theorem ascii_size {text : List Char} (ascii : ∀ c ∈ text, c.toNat < 128) :
    (String.ofList text).utf8ByteSize = text.length := by
  rw [← passwordBytes_length, passwordBytes, String.toList_ofList]
  induction text with
  | nil => rfl
  | cons c text ih =>
    rw [PercentCoding.utf8_cons, List.length_append, ih fun other member => ascii other (by simp [member]),
      PercentCoding.utf8EncodeChar_ascii (ascii c (by simp)), List.length_cons]
    simp [Nat.add_comm]

/-! ## The two encoders -/

theorem unreserved_ascii : ∀ byte, unreserved byte → byte.toNat < 128 := by
  intro byte kept
  simp only [unreserved, Bool.or_eq_true, Bool.and_eq_true, decide_eq_true_eq, UInt8.le_iff_toNat_le,
    ← UInt8.toNat_inj, UInt8.toNat_ofNat] at kept
  omega

theorem userinfo_ascii : ∀ byte, userinfo byte → byte.toNat < 128 := by
  intro byte kept
  simp only [userinfo, Bool.and_eq_true, decide_eq_true_eq, UInt8.le_iff_toNat_le,
    UInt8.toNat_ofNat] at kept
  omega

theorem userinfo_transparent : PercentCoding.Transparent userinfo where
  ascii := userinfo_ascii
  percent := by decide
  digits c digit := by
    have small := PercentCoding.hexValue_ascii digit
    have all : ∀ n < 128, (PercentCoding.hexValue (Char.ofNat n)).isSome →
        userinfo (UInt8.ofNat n) := by decide
    have same := all c.toNat small
    rw [Char.ofNat_toNat] at same
    exact same digit

theorem unreserved_userinfo : ∀ byte, unreserved byte → userinfo byte := by
  intro byte kept
  have all : ∀ n < 256, unreserved (UInt8.ofNat n) → userinfo (UInt8.ofNat n) := by
    decide +kernel
  have same := all byte.toNat byte.toNat_lt_size
  rw [UInt8.ofNat_toNat] at same
  exact same kept

/-- What an encoder writes that keeps only what the userinfo set leaves is left by it too. -/
theorem encode_userinfo {keep : UInt8 → Bool} (kept : ∀ byte, keep byte → userinfo byte)
    (bytes : Bytes) : (String.ofList (encode keep bytes)).toList.all userinfoChar := by
  rw [String.toList_ofList, List.all_eq_true]
  apply PercentCoding.encode_all
  · intro byte keeps
    have ascii := userinfo_ascii byte (kept byte keeps)
    have same := PercentCoding.asciiChar_toNat ascii
    rw [userinfoChar, same, UInt8.ofNat_toNat, kept byte keeps]
    simpa using ascii
  · decide
  · decide

theorem credential_decodes (password : Bytes) :
    decode (percentEncodeCredential password).toList = password := by
  rw [percentEncodeCredential, String.toList_ofList]
  exact PercentCoding.decode_encode unreserved_ascii (by decide) password

/-- The decoder reads what the library stores of a password as the password's own text. -/
theorem stored_decodes (password : String) :
    decode (String.ofList (encode userinfo (passwordBytes password))).toList =
      decode password.toList := by
  rw [String.toList_ofList]
  exact PercentCoding.decode_encode_utf8 userinfo_transparent password.toList

/-! ## The text of a plain URL -/

def credentialSize (keep : UInt8 → Bool) (password : Bytes) : ℕ :=
  password.length + 2 * password.countP fun byte => !keep byte

/-- The bytes of a URL with a password of the given size. -/
def urlSize (endpoint : ExternalEndpoint) (password : ℕ) (database : String) : ℕ :=
  17 + endpoint.user.utf8ByteSize + password + endpoint.host.utf8ByteSize +
    (toString endpoint.port.toNat).utf8ByteSize + database.utf8ByteSize

theorem encoded_size {keep : UInt8 → Bool} (ascii : ∀ byte, keep byte → byte.toNat < 128)
    (password : Bytes) :
    (String.ofList (encode keep password)).utf8ByteSize = credentialSize keep password := by
  rw [ascii_size (PercentCoding.encode_ascii ascii password), PercentCoding.length_encode,
    credentialSize]

theorem urlText_size (endpoint : ExternalEndpoint) (password database : String) :
    (urlText (plainUrl endpoint (some password) database)).utf8ByteSize =
      urlSize endpoint password.utf8ByteSize database := by
  have scheme : "postgresql".utf8ByteSize = 10 := by decide
  have slashes : "://".utf8ByteSize = 3 := by decide
  have colon : ":".utf8ByteSize = 1 := by decide
  have sign : "@".utf8ByteSize = 1 := by decide
  have slash : "/".utf8ByteSize = 1 := by decide
  simp only [urlText, plainUrl, Option.getD_some, String.utf8ByteSize_append, urlSize, scheme,
    slashes, colon, sign, slash]
  omega

theorem postgresUrl_text (endpoint : ExternalEndpoint) (password : Bytes) :
    postgresUrl endpoint password =
      urlText (plainUrl endpoint (some (percentEncodeCredential password)) endpoint.name) := by
  have start : "postgresql://" = "postgresql" ++ "://" := by decide
  unfold postgresUrl urlText plainUrl
  rw [start]
  dsimp only [Option.getD_some]
  simp only [String.append_assoc]

theorem alphanum_bounds {c : Char} (good : c.isAlphanum) : 48 ≤ c.toNat ∧ c.toNat ≤ 122 := by
  have spelled : ((decide (c.val ≥ 65 ∧ c.val ≤ 90) || (c.val ≥ 97 && c.val ≤ 122)) ||
      (c.val ≥ 48 && c.val ≤ 57)) = true := good
  have same : c.val.toNat = c.toNat := rfl
  simp only [Bool.or_eq_true, Bool.and_eq_true, decide_eq_true_eq, ge_iff_le,
    UInt32.le_iff_toNat_le, same, UInt32.toNat_ofNat] at spelled
  omega

theorem tokenChar_visible {c : Char} (good : c.isAlphanum || c = '_' || c = '-') :
    33 ≤ c.toNat ∧ c.toNat ≤ 126 := by
  simp only [Bool.or_eq_true, decide_eq_true_eq] at good
  rcases good with (letter | rfl) | rfl
  · have bounds := alphanum_bounds letter
    omega
  · decide
  · decide

theorem visible_not_whitespace {c : Char} (visible : 33 ≤ c.toNat ∧ c.toNat ≤ 126) :
    ¬ isWhitespace c := by
  intro white
  simp only [isWhitespace, Bool.or_eq_true, Bool.and_eq_true, decide_eq_true_eq,
    List.mem_cons, List.not_mem_nil, or_false] at white
  omega

theorem token_last {name : String} (token : postgresToken name) :
    ∃ front last, name.toList = front ++ [last] ∧ ¬ isWhitespace last := by
  simp only [postgresToken, Bool.and_eq_true, decide_eq_true_eq] at token
  cases ends : name.toList.getLast? with
  | none =>
    have empty := List.getLast?_eq_none_iff.mp ends
    exact absurd (String.toList_eq_nil_iff.mp empty) token.1.1
  | some last =>
    obtain ⟨front, same⟩ := List.getLast?_eq_some_iff.mp ends
    refine ⟨front, last, same, ?_⟩
    have good := List.all_eq_true.mp token.2 last (by rw [same]; simp)
    exact visible_not_whitespace (tokenChar_visible good)

theorem trim_url {endpoint : ExternalEndpoint} {password : Option String} {database : String}
    (token : postgresToken database) :
    trim (urlText (plainUrl endpoint password database)) =
      urlText (plainUrl endpoint password database) := by
  obtain ⟨front, last, same, visible⟩ := token_last token
  have text : ∃ middle, (urlText (plainUrl endpoint password database)).toList =
      'p' :: middle ++ [last] := by
    have start : "postgresql".toList = 'p' :: "ostgresql".toList := by decide
    simp only [urlText, plainUrl, String.toList_append, same, start, List.cons_append,
      ← List.append_assoc]
    exact ⟨_, rfl⟩
  obtain ⟨middle, spelled⟩ := text
  have start : ¬ isWhitespace 'p' := by decide
  rw [trim, spelled, List.cons_append, List.dropWhile_cons_of_neg start, ← List.cons_append,
    List.rdropWhile_concat_neg _ _ _ visible, ← spelled, String.ofList_toList]


/-! ## Reading and rewriting the file of a plain URL -/

def hasLineEnd (password : String) : Bool :=
  password.toList.any fun c => c = '\r' || c = '\n' || c = '\x00'

section plain

variable {crate : UrlCrate} {endpoint : ExternalEndpoint} {encoded database : String}

def urlFile (endpoint : ExternalEndpoint) (encoded database : String) : ByteArray :=
  (urlText (plainUrl endpoint (some encoded) database)).toByteArray

theorem urlFile_size (endpoint : ExternalEndpoint) (encoded database : String) :
    (urlFile endpoint encoded database).size =
      urlSize endpoint encoded.utf8ByteSize database := urlText_size endpoint encoded database

theorem Plain.without (plain : Plain endpoint (some encoded) database) :
    Plain endpoint none database where
  user := plain.user
  host := plain.host
  database := plain.database
  password := by simp

theorem readConnection_plain (documented : crate.Documented)
    (plain : Plain endpoint (some encoded) database) :
    readConnection crate (urlText (plainUrl endpoint (some encoded) database)) =
      match lenientDecode encoded with
      | none => .error "database URL password is not valid percent-encoding"
      | some password =>
        if hasLineEnd password then .error "database password is invalid"
        else .ok ⟨plainUrl endpoint none database, password⟩ := by
  have scheme : ¬ ((plainUrl endpoint (some encoded) database).scheme ≠ "postgres" ∧
      (plainUrl endpoint (some encoded) database).scheme ≠ "postgresql") :=
    fun other => other.2 rfl
  have stored : (plainUrl endpoint (some encoded) database).password = some encoded := rfl
  rw [readConnection, trim_url plain.database, documented.parse _ _ _ plain]
  dsimp only
  rw [if_neg scheme, stored]
  dsimp only
  rw [documented.decode, documented.removePassword _ _ _ plain]
  rfl

theorem postgresConnection_ok (documented : crate.Documented)
    (plain : Plain endpoint (some encoded) database) (path : String)
    {connection : PostgresConnection} :
    postgresConnection crate path (urlFile endpoint encoded database) = .ok connection ↔
      urlSize endpoint encoded.utf8ByteSize database ≤ 4096 ∧
        ∃ password, lenientDecode encoded = some password ∧ ¬ hasLineEnd password ∧
          connection = ⟨plainUrl endpoint none database, password⟩ := by
  rw [postgresConnection, urlFile_size]
  by_cases fits : 4096 < urlSize endpoint encoded.utf8ByteSize database
  · rw [if_pos fits]
    constructor
    · intro refused
      cases refused
    · intro small
      exact absurd small.1 (Nat.not_le.mpr fits)
  rw [if_neg fits, urlFile, fromUTF8_toByteArray]
  dsimp only
  rw [readConnection_plain documented plain]
  cases read : lenientDecode encoded with
  | none => simp
  | some password =>
    dsimp only
    by_cases broken : hasLineEnd password
    · rw [if_pos broken]
      simp [broken]
    · rw [if_neg broken]
      have small := Nat.not_lt.mp fits
      constructor
      · intro same
        exact ⟨small, password, rfl, broken, (Except.ok.inj same).symm⟩
      · rintro ⟨-, other, same, -, rfl⟩
        rw [Option.some.inj same]

theorem plain_stored (plain : Plain endpoint (some encoded) database) {password other : String}
    (some : password ≠ "") (token : postgresToken other) :
    Plain endpoint (Option.some (String.ofList (encode userinfo (passwordBytes password))))
      other where
  user := plain.user
  host := plain.host
  database := token
  password text same := by
    rw [← Option.some.inj same]
    constructor
    · intro empty
      have bytes : passwordBytes password ≠ [] := by
        intro none
        have size := passwordBytes_length password
        rw [none] at size
        exact some (String.utf8ByteSize_eq_zero_iff.mp size.symm)
      have letters := congrArg String.toList empty
      rw [String.toList_ofList] at letters
      exact PercentCoding.encode_ne_nil bytes letters
    · exact encode_userinfo (fun _ kept => kept) _

/-- A rewritten file holds the decoded password in the library's encoding. -/
theorem rewrite_plain (documented : crate.Documented)
    (plain : Plain endpoint (some encoded) database) (path : String) {other password : String}
    (token : postgresToken other) (some : password ≠ "")
    (read : postgresConnection crate path (urlFile endpoint encoded database) =
      .ok ⟨plainUrl endpoint none database, password⟩) :
    rewrite crate path (urlFile endpoint encoded database) other =
      .ok (urlFile endpoint (String.ofList (encode userinfo (passwordBytes password))) other) := by
  have moved := documented.setPath _ _ _ _ plain.without token
  have kept : Plain endpoint none other :=
    { user := plain.user, host := plain.host, database := token, password := by simp }
  rw [rewrite, read]
  dsimp only
  rw [withPasswordUrl, withDatabase]
  dsimp only
  rw [moved, documented.setPassword _ _ _ _ kept, storedPassword, if_neg some]
  dsimp only
  rw [documented.text _ _ _ (plain_stored plain some token)]
  rfl

end plain


/-! ## Credentials over any number of recoveries -/

/-- The file reads back as the endpoint's user, host and port, the password and the database. -/
def ReadsBack (crate : UrlCrate) (path : String) (endpoint : ExternalEndpoint)
    (password database : String) (file : ByteArray) : Prop :=
  ∃ connection, postgresConnection crate path file = .ok connection ∧
    connection.password = password ∧
    connection.urlWithoutPassword = plainUrl endpoint none database

def Survives (crate : UrlCrate) (path : String) (endpoint : ExternalEndpoint)
    (password database : String) (databases : List String) (file : ByteArray) : Prop :=
  ∃ last, rewrites crate path file databases = .ok last ∧
    ReadsBack crate path endpoint password (databases.getLastD database) last

/-- When the credentials survive: the URLs fit in the read limit, and once the library
writes the password, no percent sign in it looks like an escape. -/
structure Survivable (endpoint : ExternalEndpoint) (password : String)
    (databases : List String) : Prop where
  fits : urlSize endpoint (credentialSize unreserved (passwordBytes password)) endpoint.name ≤ 4096
  refits : ∀ database ∈ databases,
    urlSize endpoint (credentialSize userinfo (passwordBytes password)) database ≤ 4096
  unescaped : databases ≠ [] → ¬ hasEscape password.toList

section survival

variable {crate : UrlCrate} {endpoint : ExternalEndpoint} {encoded database : String}

theorem decoded_ne_empty (plain : Plain endpoint (some encoded) database) {password : String}
    (read : lenientDecode encoded = some password) : password ≠ "" := by
  intro empty
  have bytes := lenientDecode_bytes read
  have letters : encoded.toList ≠ [] := by
    intro none
    exact (plain.password encoded rfl).1 (String.toList_eq_nil_iff.mp none)
  rw [empty] at bytes
  exact PercentCoding.decode_ne_nil letters bytes.symm

theorem stored_lenient (password : String) :
    lenientDecode (String.ofList (encode userinfo (passwordBytes password))) =
      lenientDecode password := by
  rw [lenientDecode, stored_decodes, lenientDecode]

theorem unescaped_lenient {password : String} (unescaped : ¬ hasEscape password.toList) :
    lenientDecode password = some password :=
  lenientDecode_some (PercentCoding.decode_plain unescaped)

/-- A recovery decodes the password once more, which never makes it longer. -/
theorem rewrites_shrink (documented : crate.Documented) (path : String)
    {databases : List String} (tokens : ∀ other ∈ databases, postgresToken other)
    (plain : Plain endpoint (some encoded) database) {last : ByteArray}
    (run : rewrites crate path (urlFile endpoint encoded database) databases = .ok last)
    {connection : PostgresConnection} (read : postgresConnection crate path last = .ok connection) :
    ∃ password, lenientDecode encoded = some password ∧
      (passwordBytes connection.password).length ≤ (passwordBytes password).length ∧
      (databases ≠ [] → hasEscape password.toList →
        (passwordBytes connection.password).length < (passwordBytes password).length) := by
  induction databases generalizing encoded database with
  | nil =>
    cases run
    obtain ⟨-, password, decoded, -, rfl⟩ := (postgresConnection_ok documented plain path).mp read
    exact ⟨password, decoded, Nat.le_refl _, by simp⟩
  | cons other databases ih =>
    rw [rewrites] at run
    cases opened : postgresConnection crate path (urlFile endpoint encoded database) with
    | error error =>
      rw [rewrite, opened] at run
      cases run
    | ok found =>
      obtain ⟨-, password, decoded, -, rfl⟩ :=
        (postgresConnection_ok documented plain path).mp opened
      have some := decoded_ne_empty plain decoded
      have token := tokens other (by simp)
      rw [rewrite_plain documented plain path token some opened] at run
      obtain ⟨again, decoded', least, -⟩ := ih (fun name member => tokens name (by simp [member]))
        (plain_stored plain some token) run
      rw [stored_lenient] at decoded'
      have bytes := lenientDecode_bytes decoded'
      have shorter := PercentCoding.decodeFrom_length_le 0 password.toList
      rw [List.drop_zero] at shorter
      refine ⟨password, decoded, ?_, fun _ escapes => ?_⟩
      · exact least.trans (bytes ▸ shorter)
      · have strictly := PercentCoding.decode_length_lt escapes
        exact least.trans_lt (bytes ▸ strictly)

theorem escape_not_survives (documented : crate.Documented) (path : String) {password : String}
    {databases : List String} (tokens : ∀ other ∈ databases, postgresToken other)
    (plain : Plain endpoint (some encoded) database)
    (decoded : lenientDecode encoded = some password) (some : databases ≠ [])
    (escapes : hasEscape password.toList) :
    ¬ Survives crate path endpoint password database databases
      (urlFile endpoint encoded database) := by
  rintro ⟨last, run, connection, read, same, -⟩
  obtain ⟨password', decoded', -, shrinks⟩ :=
    rewrites_shrink documented path tokens plain run read
  cases decoded.symm.trans decoded'
  have less := shrinks some escapes
  rw [same] at less
  exact absurd less (Nat.lt_irrefl _)

/-- Without an escape every file is read as the same password, as far as it can be read. -/
theorem survives_unescaped (documented : crate.Documented) (path : String) {password : String}
    {databases : List String} (tokens : ∀ other ∈ databases, postgresToken other)
    (plain : Plain endpoint (some encoded) database)
    (decoded : lenientDecode encoded = some password) (clean : ¬ hasLineEnd password)
    (unescaped : databases ≠ [] → ¬ hasEscape password.toList) :
    Survives crate path endpoint password database databases
        (urlFile endpoint encoded database) ↔
      urlSize endpoint encoded.utf8ByteSize database ≤ 4096 ∧
        ∀ other ∈ databases,
          urlSize endpoint (credentialSize userinfo (passwordBytes password)) other ≤ 4096 := by
  induction databases generalizing encoded database with
  | nil =>
    have opens {connection : PostgresConnection} :=
      @postgresConnection_ok crate endpoint encoded database documented plain path connection
    constructor
    · rintro ⟨last, run, connection, read, -, -⟩
      cases run
      exact ⟨(opens.mp read).1, by simp⟩
    · rintro ⟨fits, -⟩
      exact ⟨_, rfl, _, opens.mpr ⟨fits, password, decoded, clean, rfl⟩, rfl, rfl⟩
  | cons other databases ih =>
    have some := decoded_ne_empty plain decoded
    have token := tokens other (by simp)
    have next := plain_stored plain some token
    have decoded' := (stored_lenient password).trans (unescaped_lenient (unescaped (by simp)))
    have opens {connection : PostgresConnection} :=
      @postgresConnection_ok crate endpoint encoded database documented plain path connection
    have later := ih (fun name member => tokens name (by simp [member])) next decoded'
      (fun _ => unescaped (by simp))
    rw [encoded_size userinfo_ascii] at later
    rw [List.forall_mem_cons, ← later]
    constructor
    · rintro ⟨last, run, back⟩
      rw [rewrites] at run
      cases opened : postgresConnection crate path (urlFile endpoint encoded database) with
      | error error =>
        rw [rewrite, opened] at run
        cases run
      | ok found =>
        obtain ⟨fits, password', same, -, rfl⟩ := opens.mp opened
        cases decoded.symm.trans same
        rw [rewrite_plain documented plain path token some opened] at run
        rw [List.getLastD_cons] at back
        exact ⟨fits, last, run, back⟩
    · rintro ⟨fits, last, run, back⟩
      have opened := opens.mpr ⟨fits, password, decoded, clean, rfl⟩
      refine ⟨last, ?_, ?_⟩
      · rw [rewrites, rewrite_plain documented plain path token some opened]
        exact run
      · rw [List.getLastD_cons]
        exact back

end survival

theorem postgresUrl_file (endpoint : ExternalEndpoint) (password : Bytes) :
    (postgresUrl endpoint password).toByteArray =
      urlFile endpoint (percentEncodeCredential password) endpoint.name := by
  rw [postgresUrl_text, urlFile]

theorem admitted_plain {endpoint : ExternalEndpoint} (admitted : AdmittedDatabase endpoint)
    (host : PlainHost endpoint.host) (material : InstallAdmission.SecretMaterial) :
    Plain endpoint (some (percentEncodeCredential material.val)) endpoint.name where
  user := admitted.user
  host := host
  database := admitted.name
  password text same := by
    rw [← Option.some.inj same]
    constructor
    · intro empty
      have letters := congrArg String.toList empty
      rw [percentEncodeCredential, String.toList_ofList] at letters
      exact PercentCoding.encode_ne_nil material.property.1 letters
    · exact encode_userinfo unreserved_userinfo _

theorem credential_lenient {material : Bytes} {password : String}
    (text : material = passwordBytes password) :
    lenientDecode (percentEncodeCredential material) = some password :=
  lenientDecode_some ((credential_decodes material).trans text)

theorem credentials_survive_iff {crate : UrlCrate} (documented : crate.Documented)
    {decode : String → Option Bytes} {order : InstallAdmission.InstallOrder}
    (valid : order.validate decode = .ok ()) {endpoint : ExternalEndpoint}
    (ofOrder : endpoint = order.databaseRuntimeEndpoint ∨
      endpoint = order.databaseLifecycleEndpoint)
    (host : PlainHost endpoint.host) (material : InstallAdmission.SecretMaterial)
    {password : String} (text : material.val = passwordBytes password)
    (clean : ¬ hasLineEnd password) {databases : List String}
    (tokens : ∀ database ∈ databases, postgresToken database) (path : String) :
    Survives crate path endpoint password endpoint.name databases
        (postgresUrl endpoint material.val).toByteArray ↔
      Survivable endpoint password databases := by
  have admitted : AdmittedDatabase endpoint := by
    have both := InstallAdmission.validate_databases valid
    cases ofOrder with
    | inl same => exact same ▸ both.1
    | inr same => exact same ▸ both.2
  have written := postgresUrl_file endpoint material.val
  have plain := admitted_plain admitted host material
  have decoded := credential_lenient text
  have size : (percentEncodeCredential material.val).utf8ByteSize =
      credentialSize unreserved (passwordBytes password) := by
    rw [percentEncodeCredential, encoded_size unreserved_ascii, text]
  rw [written]
  by_cases unescaped : databases ≠ [] → ¬ hasEscape password.toList
  · rw [survives_unescaped documented path tokens plain decoded clean unescaped, size]
    constructor
    · rintro ⟨fits, refits⟩
      exact ⟨fits, refits, unescaped⟩
    · intro survivable
      exact ⟨survivable.fits, survivable.refits⟩
  · obtain ⟨some, escapes⟩ := Classical.not_imp.mp unescaped
    constructor
    · intro survives
      exact absurd survives
        (escape_not_survives documented path tokens plain decoded some (not_not.mp escapes))
    · intro survivable
      exact absurd survivable.unescaped unescaped


/-! ### A parser of plain URLs -/

section sample

def cut (sign : Char) (text : List Char) : List Char × List Char :=
  (text.takeWhile (· ≠ sign), (text.dropWhile (· ≠ sign)).tail)

theorem cut_append {sign : Char} {front : List Char} (absent : sign ∉ front)
    (rest : List Char) : cut sign (front ++ sign :: rest) = (front, rest) := by
  have plain : ∀ c ∈ front, decide (c ≠ sign) = true := by
    intro c member
    exact decide_eq_true fun same => absent (same ▸ member)
  rw [cut, List.takeWhile_append_of_pos plain, List.dropWhile_append_of_pos plain]
  simp

theorem cut_none {sign : Char} {text : List Char} (absent : sign ∉ text) :
    cut sign text = (text, []) := by
  have plain : ∀ c ∈ text, decide (c ≠ sign) = true := by
    intro c member
    exact decide_eq_true fun same => absent (same ▸ member)
  rw [cut, List.takeWhile_eq_self_iff.mpr plain, List.dropWhile_eq_nil_iff.mpr plain]
  rfl

def userOf (userinfo : List Char × List Char) : String × Option String :=
  (String.ofList userinfo.1, if userinfo.2 = [] then none else some (String.ofList userinfo.2))

def parsePlain (text : String) : Option Url :=
  let scheme := cut ':' text.toList
  let userinfo := cut '@' (scheme.2.drop 2)
  let user := userOf (cut ':' userinfo.1)
  let host := cut ':' userinfo.2
  let port := cut '/' host.2
  some {
    scheme := String.ofList scheme.1
    username := user.1
    password := user.2
    host := some (String.ofList host.1)
    port := some (UInt16.ofNat (Nat.ofDigitChars 10 port.1 0))
    path := "/" ++ String.ofList port.2 }

theorem token_without {name : String} (token : postgresToken name) {sign : Char}
    (other : ¬ (sign.isAlphanum || sign = '_' || sign = '-')) : sign ∉ name.toList := by
  intro member
  simp only [postgresToken, Bool.and_eq_true] at token
  exact other (List.all_eq_true.mp token.2 sign member)

theorem userinfo_without {text : String} (kept : text.toList.all userinfoChar) {sign : Char}
    (other : ¬ userinfoChar sign) : sign ∉ text.toList := by
  intro member
  exact other (List.all_eq_true.mp kept sign member)

theorem host_without {host : String} (plain : PlainHost host) {sign : Char}
    (other : ¬ (sign.isAlphanum || sign = '-' || sign = '.')) : sign ∉ host.toList := by
  intro member
  exact other (List.all_eq_true.mp plain.2 sign member)

theorem port_without (port : ℕ) : '/' ∉ (toString port).toList := by
  show '/' ∉ port.repr.toList
  rw [Nat.toList_repr]
  intro member
  have digit : Char.isDigit '/' = true :=
    Nat.isDigit_of_mem_toDigits (by decide) (by decide) member
  exact absurd digit (by decide)

def userText (user : String) (password : Option String) : List Char :=
  match password with
  | none => user.toList
  | some password => user.toList ++ ':' :: password.toList

theorem userOf_text {endpoint : ExternalEndpoint} {password : Option String} {database : String}
    (plain : Plain endpoint password database) :
    userOf (cut ':' (userText endpoint.user password)) = (endpoint.user, password) ∧
      '@' ∉ userText endpoint.user password := by
  have colon := @token_without _ plain.user ':' (by decide)
  have sign := @token_without _ plain.user '@' (by decide)
  cases password with
  | none =>
    rw [userText, cut_none colon, userOf, String.ofList_toList, if_pos rfl]
    exact ⟨rfl, sign⟩
  | some password =>
    obtain ⟨some, kept⟩ := plain.password password rfl
    have letters : password.toList ≠ [] := fun none => some (String.toList_eq_nil_iff.mp none)
    have behind := @userinfo_without _ kept '@' (by decide)
    rw [userText, cut_append colon, userOf, String.ofList_toList, if_neg letters,
      String.ofList_toList]
    refine ⟨rfl, ?_⟩
    rw [List.mem_append, List.mem_cons, not_or, not_or]
    exact ⟨sign, by decide, behind⟩

theorem urlText_toList (endpoint : ExternalEndpoint) (password : Option String)
    (database : String) :
    (urlText (plainUrl endpoint password database)).toList =
      "postgresql".toList ++ ':' :: ('/' :: '/' :: (userText endpoint.user password ++ '@' ::
        (endpoint.host.toList ++ ':' ::
          ((toString endpoint.port.toNat).toList ++ '/' :: database.toList)))) := by
  have slashes : "://".toList = [':', '/', '/'] := by decide
  have colon : ":".toList = [':'] := by decide
  have sign : "@".toList = ['@'] := by decide
  have slash : "/".toList = ['/'] := by decide
  cases password with
  | none =>
    simp only [urlText, plainUrl, userText, Option.getD_some, String.toList_append, slashes, colon,
      sign, slash, List.append_assoc, List.cons_append, List.nil_append, String.toList_empty]
  | some password =>
    simp only [urlText, plainUrl, userText, Option.getD_some, String.toList_append, slashes, colon,
      sign, slash, List.append_assoc, List.cons_append, List.nil_append]

theorem parsePlain_plain {endpoint : ExternalEndpoint} {password : Option String}
    {database : String} (plain : Plain endpoint password database) :
    parsePlain (urlText (plainUrl endpoint password database)) =
      some (plainUrl endpoint password database) := by
  have scheme : ':' ∉ "postgresql".toList := by decide
  have colon := @host_without _ plain.host ':' (by decide)
  obtain ⟨user, sign⟩ := userOf_text plain
  have digits : (toString endpoint.port.toNat).toList = Nat.toDigits 10 endpoint.port.toNat :=
    Nat.toList_repr
  rw [parsePlain, urlText_toList]
  rw [cut_append scheme, List.drop_succ_cons, List.drop_succ_cons, List.drop_zero, cut_append sign,
    cut_append colon, cut_append (port_without _), user, digits, Nat.ofDigitChars_ten_toDigits,
    UInt16.ofNat_toNat, String.ofList_toList, String.ofList_toList, String.ofList_toList]
  rfl

def sampleCrate : UrlCrate where
  parse := parsePlain
  text := urlText
  setPath url path := { url with path := path }
  setPassword url password := some { url with password := password.bind storedPassword }
  decode := lenientDecode

theorem sampleCrate_documented : sampleCrate.Documented where
  text _ _ _ _ := rfl
  parse _ _ _ plain := parsePlain_plain plain
  setPath _ _ _ _ _ _ := rfl
  removePassword _ _ _ _ := rfl
  setPassword _ _ _ _ _ := rfl
  decode _ := rfl

end sample


/-! ### One password that survives and one that does not -/

section sample

open InstallAdmission (sampleOrder sampleOrder_valid sampleBase64)

theorem sampleOrder_host : PlainHost sampleOrder.databaseRuntimeEndpoint.host := by
  constructor
  · decide
  · decide

/-- The percent sign of this password has no two digits behind it. -/
def plainMaterial : InstallAdmission.SecretMaterial :=
  ⟨passwordBytes "p%@ss/4%2", by decide, by decide⟩

theorem credentials_survive_sample :
    Survives sampleCrate "database-runtime-url" sampleOrder.databaseRuntimeEndpoint "p%@ss/4%2"
      sampleOrder.databaseRuntimeEndpoint.name ["nazo_recovered_1", "nazo_recovered_2"]
      (postgresUrl sampleOrder.databaseRuntimeEndpoint plainMaterial.val).toByteArray := by
  have clean : ¬ hasLineEnd "p%@ss/4%2" := by decide
  have tokens : ∀ database ∈ ["nazo_recovered_1", "nazo_recovered_2"], postgresToken database := by
    decide
  have survivable : Survivable sampleOrder.databaseRuntimeEndpoint "p%@ss/4%2"
      ["nazo_recovered_1", "nazo_recovered_2"] := by
    constructor
    · decide
    · decide
    · intro _
      decide
  exact (credentials_survive_iff sampleCrate_documented sampleOrder_valid (.inl rfl)
    sampleOrder_host plainMaterial rfl clean tokens "database-runtime-url").mpr survivable

/-- The password `%41` is read as `A` once a recovery has written it. -/
def escapeMaterial : InstallAdmission.SecretMaterial :=
  ⟨passwordBytes "%41", by decide, by decide⟩

theorem escaped_credentials_lost :
    sampleOrder.validate sampleBase64 = .ok () ∧
    PlainHost sampleOrder.databaseRuntimeEndpoint.host ∧
    ¬ hasLineEnd "%41" ∧
    ¬ Survives sampleCrate "database-runtime-url" sampleOrder.databaseRuntimeEndpoint "%41"
      sampleOrder.databaseRuntimeEndpoint.name ["nazo_recovered_1"]
      (postgresUrl sampleOrder.databaseRuntimeEndpoint escapeMaterial.val).toByteArray := by
  refine ⟨sampleOrder_valid, sampleOrder_host, by decide, ?_⟩
  have admitted := (InstallAdmission.validate_databases sampleOrder_valid).1
  have tokens : ∀ database ∈ ["nazo_recovered_1"], postgresToken database := by decide
  have plain := admitted_plain admitted sampleOrder_host escapeMaterial
  have escapes : hasEscape "%41".toList := by decide
  have some : ["nazo_recovered_1"] ≠ [] := List.cons_ne_nil _ _
  rw [postgresUrl_file]
  exact escape_not_survives sampleCrate_documented "database-runtime-url" tokens plain
    (credential_lenient rfl) some escapes

end sample


end NazoAuthCtl.DatabaseUrls
