import NazoAuthCtl.Materializer

/-!
# Resource ids of a run

The id of a resource is made of its kind, of what its name is turned into and of the namespace
of the run. Two names of one kind have one id exactly if one of them is kept, without the dashes
at its ends, and is what the other is turned into.
-/

set_option autoImplicit false
set_option linter.all false

namespace NazoAuthCtl.ResourceIds

open Checks MatrixDescriptors Materializer
open PercentCoding (utf8)

/-- Digests are 64 small hexadecimal digits. -/
def HexDigest (library : Library) : Prop :=
  ∀ bytes, (library.digestHex bytes).toList.length = 64 ∧
    (library.digestHex bytes).toList.all isLowerHex = true

/-! ## What a name is turned into -/

inductive Shape where
  | hashed
  | marked
  | kept
  deriving DecidableEq, Repr

/-- A namespace leaves 91 bytes to the kind and the name. -/
def shape (kind value : String) : Shape :=
  if kind.utf8ByteSize + 1 + (trimmedId value).utf8ByteSize +
      (if normalizedId value ≠ value then 17 else 0) > 91 then .hashed
  else if normalizedId value ≠ value then .marked
  else .kept

section Stems

variable (library : Library)

def stemOf (value : String) : Shape → String
  | .hashed => digestStart library 32 value
  | .marked => trimmedId value ++ "-" ++ digestStart library 16 value
  | .kept => trimmedId value

def stem (kind value : String) : String := stemOf library value (shape kind value)

theorem runScopedResourceId_stem {kind value suffix : String} (size : suffix.utf8ByteSize = 32) :
    runScopedResourceId library kind value suffix =
      kind ++ "-" ++ stem library kind value ++ "-run-" ++ suffix := by
  have left : 128 - 5 - suffix.utf8ByteSize = 91 := by rw [size]
  rw [runScopedResourceId, left, stem, shape]
  by_cases long : kind.utf8ByteSize + 1 + (trimmedId value).utf8ByteSize +
      (if normalizedId value ≠ value then 17 else 0) > 91
  · rw [if_pos long, if_pos long, stemOf]
  · rw [if_neg long, if_neg long]
    by_cases changed : normalizedId value ≠ value
    · have inner : kind ++ "-" ++ (trimmedId value ++ "-" ++ digestStart library 16 value) =
          kind ++ "-" ++ trimmedId value ++ "-" ++ digestStart library 16 value := by
        rw [← String.append_assoc, ← String.append_assoc]
      rw [if_pos changed, if_pos changed, stemOf, inner]
    · rw [if_neg changed, if_neg changed, stemOf]

/-- The names `a` and `b` have one id: `a` is kept, and is what `b` is turned into. -/
inductive Clash (kind a b : String) : Prop
  | dashes : a ≠ b → shape kind a = .kept → shape kind b = .kept → trimmedId a = trimmedId b →
      Clash kind a b
  | marked : shape kind a = .kept → shape kind b = .marked →
      trimmedId a = trimmedId b ++ "-" ++ digestStart library 16 b → Clash kind a b
  | hashed : shape kind a = .kept → shape kind b = .hashed →
      trimmedId a = digestStart library 32 b → Clash kind a b

end Stems

section Letters

variable {library : Library} {kind a b value : String}

theorem digestStart_letters (hex : HexDigest library) {length : ℕ} (short : length ≤ 64) :
    (digestStart library length value).toList.length = length ∧
      (digestStart library length value).toList.all isLowerHex = true := by
  obtain ⟨size, letters⟩ := hex (utf8 value.toList)
  rw [digestStart, String.toList_ofList]
  refine ⟨?_, ?_⟩
  · rw [List.length_take, size]
    omega
  · rw [List.all_eq_true] at letters ⊢
    exact fun c inside => letters c (List.mem_of_mem_take inside)

theorem digestStart_shorter (value other : String)
    (same : digestStart library 32 value = digestStart library 32 other) :
    digestStart library 16 value = digestStart library 16 other := by
  have taken := congrArg (fun text => String.ofList (text.toList.take 16)) same
  simp only [digestStart, String.toList_ofList, List.take_take] at taken
  exact taken

theorem append_digest {x y p q : String} (sizes : p.toList.length = q.toList.length)
    (same : x ++ p = y ++ q) : x = y ∧ p = q := by
  have lists := congrArg String.toList same
  rw [String.toList_append, String.toList_append] at lists
  obtain ⟨front, back⟩ := List.append_inj' lists sizes
  exact ⟨String.toList_injective front, String.toList_injective back⟩

/-- By the shapes of the two names. -/
theorem stem_same (hex : HexDigest library) (different : a ≠ b)
    (apart : digestStart library 16 a = digestStart library 16 b → a = b)
    (same : stem library kind a = stem library kind b) :
    Clash library kind a b ∨ Clash library kind b a := by
  have dash (name : String) (length : ℕ) (short : length ≤ 64) (front back : String) :
      digestStart library length name ≠ front ++ "-" ++ back := by
    intro equal
    have letters : (digestStart library length name).toList.all isLowerHex = true :=
      (digestStart_letters hex short).2
    rw [equal, String.toList_append, String.toList_append, List.all_append,
      List.all_append] at letters
    simp [isLowerHex] at letters
  cases first : shape kind a with
  | hashed =>
    cases second : shape kind b with
    | hashed =>
      rw [stem, stem, first, second] at same
      exact absurd (apart (digestStart_shorter a b same)) different
    | marked =>
      rw [stem, stem, first, second] at same
      exact absurd same (dash a 32 (by decide) _ _)
    | kept =>
      rw [stem, stem, first, second] at same
      exact .inr (.hashed second first same.symm)
  | marked =>
    cases second : shape kind b with
    | hashed =>
      rw [stem, stem, first, second] at same
      exact absurd same.symm (dash b 32 (by decide) _ _)
    | marked =>
      rw [stem, stem, first, second] at same
      have sizes : (digestStart library 16 a).toList.length =
          (digestStart library 16 b).toList.length := by
        rw [(digestStart_letters hex (by decide)).1, (digestStart_letters hex (by decide)).1]
      exact absurd (apart (append_digest sizes same).2) different
    | kept =>
      rw [stem, stem, first, second] at same
      exact .inr (.marked second first same.symm)
  | kept =>
    cases second : shape kind b with
    | hashed =>
      rw [stem, stem, first, second] at same
      exact .inl (.hashed first second same)
    | marked =>
      rw [stem, stem, first, second] at same
      exact .inl (.marked first second same)
    | kept =>
      rw [stem, stem, first, second] at same
      exact .inl (.dashes different first second same)

theorem Clash.stems (clash : Clash library kind a b) :
    a ≠ b ∧ stem library kind a = stem library kind b := by
  cases clash with
  | dashes different first second same =>
    rw [stem, stem, first, second]
    exact ⟨different, same⟩
  | marked first second same =>
    rw [stem, stem, first, second]
    refine ⟨?_, same⟩
    rintro rfl
    rw [first] at second
    cases second
  | hashed first second same =>
    rw [stem, stem, first, second]
    refine ⟨?_, same⟩
    rintro rfl
    rw [first] at second
    cases second

end Letters

/-! ## Identifiers -/

section Identifiers

variable {library : Library} {kind value suffix : String}

/-- What the checks of a manifest take as the id of a resource. -/
def ValidId (id : String) : Prop :=
  id ≠ "" ∧ id.utf8ByteSize ≤ 128 ∧ id.toList.all isIdChar = true

theorem validateResourceId_ok {id : String} : validateResourceId id = .ok () ↔ ValidId id :=
  check_ok

theorem idChar_size {c : Char} (letter : isIdChar c = true) : c.utf8Size = 1 := by
  rw [Char.utf8Size_eq_one_iff]
  rw [isIdChar, MatrixTemplates.isAsciiAlphanumeric] at letter
  simp only [Bool.or_eq_true, Bool.and_eq_true, decide_eq_true_eq, Char.le_def] at letter
  rcases letter with ((((((⟨_, below⟩ | ⟨_, below⟩) | ⟨_, below⟩) | rfl) | rfl) | rfl) | rfl)
  · exact UInt32.le_trans below (by decide)
  · exact UInt32.le_trans below (by decide)
  · exact UInt32.le_trans below (by decide)
  · decide
  · decide
  · decide
  · decide

theorem idText_size (text : List Char) (letters : text.all isIdChar = true) :
    (String.ofList text).utf8ByteSize = text.length := by
  induction text with
  | nil => rfl
  | cons c text hypothesis =>
    rw [List.all_cons, Bool.and_eq_true] at letters
    have parts : String.ofList (c :: text) = String.singleton c ++ String.ofList text := by
      rw [String.singleton_eq_ofList, ← String.ofList_append, List.singleton_append]
    rw [parts, String.utf8ByteSize_append, String.utf8ByteSize_singleton, idChar_size letters.1,
      hypothesis letters.2, List.length_cons]
    omega

theorem id_size {text : String} (letters : text.toList.all isIdChar = true) :
    text.utf8ByteSize = text.toList.length := by
  have size := idText_size text.toList letters
  rwa [String.ofList_toList] at size

theorem hex_letter {c : Char} (hex : isLowerHex c = true) : isIdChar c = true := by
  rw [isLowerHex] at hex
  rw [isIdChar, MatrixTemplates.isAsciiAlphanumeric]
  simp only [Bool.or_eq_true, Bool.and_eq_true, decide_eq_true_eq] at hex ⊢
  rcases hex with digit | letter
  · exact .inl (.inl (.inl (.inl (.inl (.inl digit)))))
  · exact .inl (.inl (.inl (.inl (.inr ⟨letter.1, letter.2.trans (by decide)⟩))))

theorem digestStart_valid (hex : HexDigest library) {length : ℕ} (short : length ≤ 64) :
    (digestStart library length value).toList.all isIdChar = true ∧
      (digestStart library length value).utf8ByteSize = length := by
  obtain ⟨size, letters⟩ : (digestStart library length value).toList.length = length ∧
      (digestStart library length value).toList.all isLowerHex = true :=
    digestStart_letters hex short
  have valid : (digestStart library length value).toList.all isIdChar = true := by
    rw [List.all_eq_true] at letters ⊢
    exact fun c inside => hex_letter (letters c inside)
  exact ⟨valid, by rw [id_size valid, size]⟩

theorem suffix_digest (namespaceText : String) :
    runNamespaceSuffix library namespaceText = digestStart library 32 namespaceText := rfl

theorem normalized_letters (value : String) :
    (normalizedId value).toList.all isIdChar = true := by
  rw [normalizedId, String.toList_ofList, List.all_map, List.all_eq_true]
  intro c _
  change isIdChar (if isIdChar c = true then c else '-') = true
  split
  · next letter => exact letter
  · rfl

theorem trimmed_letters (value : String) : (trimmedId value).toList.all isIdChar = true := by
  have letters := normalized_letters value
  rw [List.all_eq_true] at letters
  rw [trimmedId, String.toList_ofList, List.all_eq_true]
  intro c inside
  exact letters c ((List.dropWhile_sublist _).subset ((List.rdropWhile_prefix _ _).subset inside))

/-- The letters of what a name is turned into, and the room that it takes. -/
theorem stem_letters (hex : HexDigest library) (room : kind.utf8ByteSize ≤ 58) :
    (stem library kind value).toList.all isIdChar = true ∧
      kind.utf8ByteSize + 1 + (stem library kind value).utf8ByteSize ≤ 91 := by
  have trimmed := trimmed_letters value
  obtain ⟨long, size⟩ : (digestStart library 32 value).toList.all isIdChar = true ∧
      (digestStart library 32 value).utf8ByteSize = 32 := digestStart_valid hex (by decide)
  obtain ⟨short, size'⟩ : (digestStart library 16 value).toList.all isIdChar = true ∧
      (digestStart library 16 value).utf8ByteSize = 16 := digestStart_valid hex (by decide)
  rw [stem, shape]
  by_cases exceeds : kind.utf8ByteSize + 1 + (trimmedId value).utf8ByteSize +
      (if normalizedId value ≠ value then 17 else 0) > 91
  · rw [if_pos exceeds, stemOf]
    exact ⟨long, by omega⟩
  · rw [if_neg exceeds]
    by_cases changed : normalizedId value ≠ value
    · rw [if_pos changed] at exceeds
      rw [if_pos changed, stemOf, String.toList_append, String.toList_append, List.all_append,
        List.all_append, trimmed, short, String.utf8ByteSize_append, String.utf8ByteSize_append,
        size']
      have dash : "-".utf8ByteSize = 1 := rfl
      exact ⟨rfl, by omega⟩
    · rw [if_neg changed] at exceeds
      rw [if_neg changed, stemOf]
      exact ⟨trimmed, by omega⟩

theorem scoped_valid (hex : HexDigest library) (room : kind.utf8ByteSize ≤ 58)
    (letters : kind.toList.all isIdChar = true) (run : String) :
    ValidId (runScopedResourceId library kind value (runNamespaceSuffix library run)) := by
  obtain ⟨digits, size⟩ : (digestStart library 32 run).toList.all isIdChar = true ∧
      (digestStart library 32 run).utf8ByteSize = 32 := digestStart_valid hex (by decide)
  obtain ⟨stems, fits⟩ : (stem library kind value).toList.all isIdChar = true ∧
      kind.utf8ByteSize + 1 + (stem library kind value).utf8ByteSize ≤ 91 :=
    stem_letters hex room
  have dash : "-".utf8ByteSize = 1 := rfl
  have mark : "-run-".utf8ByteSize = 5 := rfl
  have marked : "-run-".toList.all isIdChar = true := rfl
  have dashed : "-".toList.all isIdChar = true := rfl
  rw [suffix_digest, runScopedResourceId_stem library size]
  refine ⟨?_, ?_, ?_⟩
  · intro blank
    have none := congrArg String.utf8ByteSize blank
    have empty : "".utf8ByteSize = 0 := rfl
    rw [String.utf8ByteSize_append, size, empty] at none
    omega
  · rw [String.utf8ByteSize_append, String.utf8ByteSize_append, String.utf8ByteSize_append,
      String.utf8ByteSize_append, size]
    omega
  · rw [String.toList_append, String.toList_append, String.toList_append, String.toList_append,
      List.all_append, List.all_append, List.all_append, List.all_append, letters, dashed, stems,
      marked, digits]
    rfl

/-- The kinds of the resources of a run. -/
def kinds : List String :=
  ["user", "oauth-client", "mtls-trust-anchor", "openid4vc-dataset", "openid4vc-trust-policy"]

theorem kinds_apart {one two x y : String} (first : one ∈ kinds) (second : two ∈ kinds)
    (same : one ++ "-" ++ x = two ++ "-" ++ y) : one = two := by
  have lists := congrArg String.toList same
  simp only [String.toList_append] at lists
  simp only [kinds, List.mem_cons, List.not_mem_nil, or_false] at first second
  rcases first with rfl | rfl | rfl | rfl | rfl <;>
    rcases second with rfl | rfl | rfl | rfl | rfl <;> simp at lists ⊢

end Identifiers

/-! ## Names with one id -/

section Names

variable {library : Library} {kind one two a b run other : String}

theorem suffix_size (hex : HexDigest library) (run : String) :
    (runNamespaceSuffix library run).utf8ByteSize = 32 :=
  (digestStart_valid hex (by decide)).2

/-- Within a run. -/
theorem scoped_same (hex : HexDigest library) (first : one ∈ kinds) (second : two ∈ kinds)
    (apart : digestStart library 16 a = digestStart library 16 b → a = b)
    (same : runScopedResourceId library one a (runNamespaceSuffix library run) =
      runScopedResourceId library two b (runNamespaceSuffix library run)) :
    one = two ∧ (a = b ∨ Clash library one a b ∨ Clash library one b a) := by
  have size := suffix_size hex run
  rw [runScopedResourceId_stem library size, runScopedResourceId_stem library size] at same
  have fronts := (append_digest rfl same).1
  have bases := (append_digest rfl fronts).1
  have kind := kinds_apart first second bases
  refine ⟨kind, ?_⟩
  rw [← kind] at bases
  have stems : stem library one a = stem library one b := by
    have lists := congrArg String.toList bases
    simp only [String.toList_append] at lists
    exact String.toList_injective (List.append_cancel_left lists)
  by_cases equal : a = b
  · exact .inl equal
  · exact .inr (stem_same hex equal apart stems)

theorem Clash.same (hex : HexDigest library) (clash : Clash library kind a b) (run : String) :
    runScopedResourceId library kind a (runNamespaceSuffix library run) =
      runScopedResourceId library kind b (runNamespaceSuffix library run) := by
  have size := suffix_size hex run
  rw [runScopedResourceId_stem library size, runScopedResourceId_stem library size,
    clash.stems.2]

/-- Between two runs: an id ends with the namespace of its run. -/
theorem scoped_run (hex : HexDigest library)
    (same : runScopedResourceId library one a (runNamespaceSuffix library run) =
      runScopedResourceId library two b (runNamespaceSuffix library other)) :
    runNamespaceSuffix library run = runNamespaceSuffix library other := by
  have size := suffix_size hex run
  have size' := suffix_size hex other
  rw [runScopedResourceId_stem library size, runScopedResourceId_stem library size'] at same
  have lengths : (runNamespaceSuffix library run).toList.length =
      (runNamespaceSuffix library other).toList.length :=
    ((digestStart_letters hex (by decide)).1).trans
      ((digestStart_letters hex (by decide)).1).symm
  exact (append_digest lengths same).2

end Names

end NazoAuthCtl.ResourceIds
