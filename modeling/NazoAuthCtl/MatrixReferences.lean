import Mathlib.Data.List.DropRight
import Mathlib.Data.String.Basic
import NazoAuthCtl.Checks
import NazoAuthCtl.SortedMap
import NazoAuthCtl.StateDocument

/-!
# References of a conformance matrix

A placeholder of a template names a reference. A reference may be an alias of its plan, which
stands for another placeholder, and so on until a name that is no alias: the end of its chain.
Two checks of a descriptor walk a chain with the aliases they have passed, and the resolver
follows it without. The resolver has no answer where its loop does not end.
-/

set_option autoImplicit false
set_option linter.all false

namespace NazoAuthCtl.MatrixReferences

open Checks
open StateDocument (isControl isWhitespace)

inductive MaterializerError where
  | oversize
  | unsupportedSchema (schema : UInt32)
  | invalidField (field : String)
  | duplicateId (id : String)
  | duplicateRole (role : String)
  | embeddedSecret
  | invalidPlaceholder
  | unknownSecretReference (name : String)
  | crossPlanReference (name : String)
  | secretCycle
  | unknownClientReference (name : String)
  | ambiguousClientReference
  | weakAlgorithm
  | unsafeIssuer
  | crypto
  | encoding
  | missingClientMapping
  | duplicateClientMapping
  | requestMismatch
  | tenantResourceResultMismatch (what : String)
  deriving DecidableEq, Repr

/-! ## Texts -/

def trim (text : String) : String :=
  String.ofList ((text.toList.dropWhile isWhitespace).rdropWhile isWhitespace)

def startsWith (part text : String) : Bool := part.toList.isPrefixOf text.toList

def endsWith (part text : String) : Bool := part.toList.isSuffixOf text.toList

def stripPrefix (part text : String) : Option String :=
  if startsWith part text then some (String.ofList (text.toList.drop part.toList.length)) else none

def contains (part text : String) : Bool := text.toList.tails.any part.toList.isPrefixOf

/-- `str::split_once`. -/
def splitOnce (mark : Char) (text : String) : Option (String × String) :=
  if text.toList.contains mark then
    some (String.ofList (text.toList.takeWhile (· ≠ mark)),
      String.ofList (text.toList.dropWhile (· ≠ mark)).tail)
  else none

def blankless (text : String) : Bool := text.toList.all fun c => !isControl c && !isWhitespace c

theorem stripPrefix_some {part text rest : String} (found : stripPrefix part text = some rest) :
    startsWith part text = true ∧ text = part ++ rest := by
  rw [stripPrefix] at found
  split at found
  · next starts =>
    cases found
    refine ⟨starts, ?_⟩
    obtain ⟨after, same⟩ := List.isPrefixOf_iff_prefix.mp starts
    rw [← String.toList_inj, String.toList_append, String.toList_ofList, ← same,
      List.drop_left]
  · cases found

theorem stripPrefix_none {part text : String}
    (missing : ∀ rest, stripPrefix part text = some rest → False) :
    startsWith part text = false := by
  by_contra starts
  rw [Bool.not_eq_false] at starts
  refine missing (String.ofList (text.toList.drop part.toList.length)) ?_
  rw [stripPrefix, if_pos starts]

/-- A text starts with one of two texts that do not start with each other at most. -/
theorem startsWith_apart {a b text : String} (here : startsWith a text = true)
    (apart : (startsWith a b || startsWith b a) = false) : startsWith b text = false := by
  rw [Bool.or_eq_false_iff] at apart
  by_contra there
  rw [Bool.not_eq_false] at there
  rcases List.prefix_or_prefix_of_prefix (List.isPrefixOf_iff_prefix.mp here)
    (List.isPrefixOf_iff_prefix.mp there) with first | second
  · rw [startsWith, List.isPrefixOf_iff_prefix.mpr first] at apart
    exact Bool.noConfusion apart.1
  · rw [startsWith, startsWith, List.isPrefixOf_iff_prefix.mpr second] at apart
    exact Bool.noConfusion apart.2

theorem splitOnce_some {mark : Char} {text before after : String}
    (found : splitOnce mark text = some (before, after)) :
    text = before ++ String.singleton mark ++ after := by
  rw [splitOnce] at found
  split at found
  · next inside =>
    cases found
    rw [List.contains_iff_mem] at inside
    have rest : text.toList.dropWhile (· ≠ mark) =
        mark :: (text.toList.dropWhile (· ≠ mark)).tail := by
      have some : text.toList.dropWhile (· ≠ mark) ≠ [] := by
        intro none
        have kept := List.dropWhile_eq_nil_iff.mp none mark inside
        simp at kept
      obtain ⟨first, tail, same⟩ := List.exists_cons_of_ne_nil some
      have marked := List.head?_dropWhile_not (fun c => decide (c ≠ mark)) text.toList
      rw [same] at marked
      simp only [List.head?_cons] at marked
      have equal : first = mark := by simpa using marked
      rw [same, equal]
      rfl
    rw [← String.toList_inj, String.toList_append, String.toList_append, String.toList_ofList,
      String.toList_ofList, String.toList_singleton, List.append_assoc, List.singleton_append,
      ← rest, List.takeWhile_append_dropWhile]
  · cases found

/-! ## Placeholders -/

/-- The text between the braces. -/
def inner (value : String) : String := String.ofList (value.toList.drop 2).dropLast.dropLast

def braced (value : String) : Bool :=
  startsWith "\x7b\x7b" value && endsWith "\x7d\x7d" value && 5 ≤ value.utf8ByteSize

def isName (name : String) : Bool :=
  name ≠ "" && blankless name && !contains "\x7b\x7b" name && !contains "\x7d\x7d" name

def parsePlaceholder (value : String) : Except MaterializerError String :=
  if braced value && isName (trim (inner value)) then .ok (trim (inner value))
  else .error .invalidPlaceholder

def isPlaceholder (value : String) : Bool := (parsePlaceholder value).toBool

/-- A text that a template must not hold except as a whole placeholder. -/
def marked (text : String) : Bool :=
  contains "\x7b\x7b" text || contains "\x7d\x7d" text || contains "$\x7b" text

/-! ## Chains -/

abbrev Bindings := List (String × String)

def bindingName (name : String) : String := (stripPrefix "secret." name).getD name

/-- The placeholder that a reference is an alias of. -/
def aliasOf (bindings : Bindings) (name : String) : Option String :=
  SortedMap.get bindings (bindingName name)

/-- The walk of a check along a chain, with the aliases it has passed. -/
def walk (bindings : Bindings) (normal : String → String)
    (enter leaf : String → Except MaterializerError Unit) :
    ℕ → List String → String → Except MaterializerError Unit
  | 0, _, _ => .error .secretCycle
  | fuel + 1, stack, reference => do
    enter (normal reference)
    match aliasOf bindings (normal reference) with
    | some binding =>
      if bindingName (normal reference) ∈ stack then .error .secretCycle
      else do
        let nested ← parsePlaceholder binding
        walk bindings normal enter leaf fuel (bindingName (normal reference) :: stack) nested
    | none => leaf (normal reference)

def builtinNames : List String :=
  ["generated.applicant_password", "generated.client_secret", "generated.rsa.private_jwks",
    "generated.rsa.public_jwks", "generated.ec.private_jwks", "generated.ec.public_jwks",
    "generated.mtls.ca_cert", "generated.mtls.client_cert", "generated.mtls.client_key",
    "generated.mtls.cert_sha256", "generated.dynamic_registration_initial_access_token",
    "generated.applicant_email", "generated.credential_holder_email_sha256",
    "onboarding.applicant_id", "onboarding.openid4vc_request_object_trust_anchor_pem",
    "onboarding.client_id", "onboarding.client_secret", "target.issuer", "target.host",
    "target.suite", "suite.origin"]

def builtinPrefixes : List String :=
  ["client.", "target.url.", "target.pattern.", "run.alias.", "suite.test.",
    "suite.test_query.", "suite.pattern."]

def isBuiltinReference (name : String) : Bool :=
  builtinNames.contains name || builtinPrefixes.any fun part => startsWith part name

def checkOwnPlan (name : String) : Except MaterializerError Unit :=
  if startsWith "plan." name || startsWith "group." name || contains "::" name then
    .error (.crossPlanReference name)
  else .ok ()

def checkBuiltin (name : String) : Except MaterializerError Unit :=
  if isBuiltinReference name then .ok () else .error (.unknownSecretReference name)

def validateBindingReference (bindings : Bindings) (reference : String) :
    Except MaterializerError Unit :=
  walk bindings trim checkOwnPlan checkBuiltin (bindings.length + 1) [] reference

def checkClient (clients : List String) (name : String) : Except MaterializerError Unit :=
  match stripPrefix "client." name with
  | some rest =>
    match splitOnce '.' rest with
    | none => .error (.unknownClientReference rest)
    | some (logical, _) =>
      if logical ∈ clients then .ok () else .error (.unknownClientReference logical)
  | none =>
    if (name = "onboarding.client_id" ∨ name = "onboarding.client_secret") ∧ clients.length ≠ 1 then
      .error .ambiguousClientReference
    else .ok ()

def validateReferenceClient (bindings : Bindings) (clients : List String) (name : String) :
    Except MaterializerError Unit :=
  walk bindings id (fun _ => .ok ()) (checkClient clients) (bindings.length + 1) [] name

/-- The loop of the resolver. -/
def follow (bindings : Bindings) : ℕ → String → Option (Except MaterializerError String)
  | 0, _ => none
  | fuel + 1, name =>
    match aliasOf bindings name with
    | some binding =>
      match parsePlaceholder binding with
      | .error error => some (.error error)
      | .ok nested => follow bindings fuel nested
    | none => some (.ok name)

/-- The end of the chain of a reference, if the loop of the resolver ends. -/
def endOfChain (bindings : Bindings) (name : String) : Option (Except MaterializerError String) :=
  follow bindings (bindings.length + 1) name

/-! ## The checks and the resolver agree -/

section Chains

variable {bindings : Bindings} {normal : String → String}
  {enter leaf : String → Except MaterializerError Unit}

theorem dropWhile_all {p : Char → Bool} {text : List Char} (none : ∀ c ∈ text, p c = false) :
    text.dropWhile p = text := by
  cases text with
  | nil => rfl
  | cons c rest => rw [List.dropWhile_cons, none c List.mem_cons_self, if_neg Bool.false_ne_true]

theorem trim_blankless {text : String} (plain : blankless text = true) : trim text = text := by
  have none : ∀ c ∈ text.toList, isWhitespace c = false := by
    intro c inside
    have kept := List.all_eq_true.mp plain c inside
    rw [Bool.and_eq_true, Bool.not_eq_true', Bool.not_eq_true'] at kept
    exact kept.2
  have reversed : ∀ c ∈ text.toList.reverse, isWhitespace c = false :=
    fun c inside => none c (List.mem_reverse.mp inside)
  rw [trim, dropWhile_all none, List.rdropWhile, dropWhile_all reversed, List.reverse_reverse,
    String.ofList_toList]

theorem parsePlaceholder_ok {value name : String} :
    parsePlaceholder value = .ok name ↔
      (braced value && isName (trim (inner value))) = true ∧ trim (inner value) = name := by
  rw [parsePlaceholder]
  by_cases good : (braced value && isName (trim (inner value))) = true
  · rw [if_pos good, Except.ok.injEq, and_iff_right good]
  · rw [if_neg good]
    exact iff_of_false (by simp) fun found => good found.1

theorem parsePlaceholder_blankless {value name : String}
    (parsed : parsePlaceholder value = .ok name) : blankless name = true := by
  obtain ⟨good, rfl⟩ := parsePlaceholder_ok.mp parsed
  rw [isName] at good
  simp only [Bool.and_eq_true] at good
  exact good.2.1.1.2

/-- A walk that passes ends where the loop of the resolver does, and its last check passed. -/
theorem walk_follow (settled : ∀ name, blankless name = true → normal name = name) {fuel : ℕ}
    {stack : List String} {reference : String}
    (passed : walk bindings normal enter leaf fuel stack reference = .ok ()) :
    ∃ last, follow bindings fuel (normal reference) = some (.ok last) ∧ enter last = .ok () ∧
      leaf last = .ok () ∧ aliasOf bindings last = none := by
  induction fuel generalizing stack reference with
  | zero => cases passed
  | succ fuel hypothesis =>
    rw [walk] at passed
    obtain ⟨_, entered, passed⟩ := bind_ok.mp passed
    cases named : aliasOf bindings (normal reference) with
    | none =>
      rw [named] at passed
      rw [follow, named]
      exact ⟨_, rfl, entered, passed, named⟩
    | some binding =>
      rw [named] at passed
      simp only at passed
      split at passed
      · cases passed
      · obtain ⟨nested, parsed, passed⟩ := bind_ok.mp passed
        obtain ⟨last, reached, checks⟩ := hypothesis passed
        rw [settled nested (parsePlaceholder_blankless parsed)] at reached
        rw [follow, named]
        refine ⟨last, ?_, checks⟩
        simp only [parsed, reached]

/-- A walk with more fuel than aliases left to pass is not short of it. -/
theorem walk_more {fuel : ℕ} {stack : List String} {reference : String} (distinct : stack.Nodup)
    (passed : ∀ name ∈ stack, name ∈ SortedMap.keys bindings)
    (enough : bindings.length < fuel + stack.length) :
    walk bindings normal enter leaf (fuel + 1) stack reference =
      walk bindings normal enter leaf fuel stack reference := by
  induction fuel generalizing stack reference with
  | zero =>
    have few : stack.length ≤ (SortedMap.keys bindings).length :=
      (List.subperm_of_subset distinct passed).length_le
    rw [SortedMap.keys, List.length_map] at few
    omega
  | succ fuel hypothesis =>
    rw [walk, walk]
    refine bind_congr fun _ => ?_
    cases named : aliasOf bindings (normal reference) with
    | none => rfl
    | some binding =>
      simp only
      by_cases again : bindingName (normal reference) ∈ stack
      · rw [if_pos again, if_pos again]
      · rw [if_neg again, if_neg again]
        refine bind_congr fun nested => ?_
        refine hypothesis (List.nodup_cons.mpr ⟨again, distinct⟩) ?_ ?_
        · intro name inside
          rcases List.mem_cons.mp inside with rfl | before
          · exact SortedMap.mem_keys.mpr ⟨binding, SortedMap.mem_of_get named⟩
          · exact passed name before
        · rw [List.length_cons]
          omega

/-- The fuel of a check is no bound: any more gives the same answer. -/
theorem walk_enough (more : ℕ) (reference : String) :
    walk bindings normal enter leaf (bindings.length + 1 + more) [] reference =
      walk bindings normal enter leaf (bindings.length + 1) [] reference := by
  induction more with
  | zero => rfl
  | succ more hypothesis =>
    rw [← hypothesis]
    refine walk_more List.nodup_nil (by simp) ?_
    change bindings.length < bindings.length + 1 + more + 0
    omega

end Chains

end NazoAuthCtl.MatrixReferences
