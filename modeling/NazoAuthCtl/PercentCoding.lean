import Mathlib.Data.List.Basic

/-!
# Percent-encoded text

An encoder copies the bytes it keeps and writes `%XX` for the others. A lenient
decoder turns every `%XX` back and copies the rest, a stray percent sign too. An
encoder that keeps no percent sign is undone by the decoder. One that keeps the
percent sign and the hexadecimal digits is invisible to it, so that the text is
decoded as it stood before, and only a text without an escape survives that.
-/

set_option autoImplicit false
set_option linter.all false

namespace NazoAuthCtl.PercentCoding

abbrev Bytes := List UInt8

def hexDigits : List Char := "0123456789ABCDEF".toList

def hexDigit (n : ℕ) : Char := hexDigits.getD n '0'

/-- The value of a hexadecimal digit of either case. -/
def hexValue (c : Char) : Option ℕ :=
  if 48 ≤ c.toNat ∧ c.toNat ≤ 57 then some (c.toNat - 48)
  else if 65 ≤ c.toNat ∧ c.toNat ≤ 70 then some (c.toNat - 55)
  else if 97 ≤ c.toNat ∧ c.toNat ≤ 102 then some (c.toNat - 87)
  else none

def asciiChar (byte : UInt8) : Char := Char.ofNat byte.toNat

def encodeByte (keep : UInt8 → Bool) (byte : UInt8) : List Char :=
  if keep byte then [asciiChar byte]
  else ['%', hexDigit (byte.toNat / 16), hexDigit (byte.toNat % 16)]

def encode (keep : UInt8 → Bool) (bytes : Bytes) : List Char := bytes.flatMap (encodeByte keep)

/-- The byte that two hexadecimal digits at the start of a text name. -/
def escaped : List Char → Option UInt8
  | first :: second :: _ =>
    match hexValue first, hexValue second with
    | some high, some low => some (UInt8.ofNat (high * 16 + low))
    | _, _ => none
  | _ => none

/-- Decodes behind the characters that an escape has already used. -/
def decodeFrom : ℕ → List Char → Bytes
  | _, [] => []
  | used + 1, _ :: rest => decodeFrom used rest
  | 0, c :: rest =>
    if c = '%' then
      match escaped rest with
      | some byte => byte :: decodeFrom 2 rest
      | none => 37 :: decodeFrom 0 rest
    else String.utf8EncodeChar c ++ decodeFrom 0 rest

def decode (text : List Char) : Bytes := decodeFrom 0 text

/-- A percent sign with two hexadecimal digits behind it. -/
def hasEscape : List Char → Bool
  | [] => false
  | c :: rest => (c = '%' && (escaped rest).isSome) || hasEscape rest

def utf8 (text : List Char) : Bytes := text.flatMap String.utf8EncodeChar

/-! ## Bytes and digits -/

theorem hexValue_hexDigit {n : ℕ} (digit : n < 16) : hexValue (hexDigit n) = some n := by
  have all : ∀ n < 16, hexValue (hexDigit n) = some n := by decide
  exact all n digit

theorem hexDigit_ascii {n : ℕ} (digit : n < 16) : (hexDigit n).toNat < 128 := by
  have all : ∀ n < 16, (hexDigit n).toNat < 128 := by decide
  exact all n digit

theorem asciiChar_toNat {byte : UInt8} (ascii : byte.toNat < 128) :
    (asciiChar byte).toNat = byte.toNat := by
  have valid : byte.toNat.isValidChar := .inl (by omega)
  rw [asciiChar, Char.ofNat, dif_pos valid]
  rfl

theorem utf8EncodeChar_ascii {c : Char} (ascii : c.toNat < 128) :
    String.utf8EncodeChar c = [UInt8.ofNat c.toNat] := by
  have small : c.val.toNat ≤ 127 := Nat.le_of_lt_succ ascii
  rw [String.utf8EncodeChar, if_pos small]
  rfl

theorem utf8EncodeChar_wide {c : Char} (wide : ¬ c.toNat < 128) :
    ∀ byte ∈ String.utf8EncodeChar c, 128 ≤ byte.toNat := by
  have large : ¬ c.val.toNat ≤ 127 := fun small => wide (Nat.lt_succ_of_le small)
  intro byte member
  rw [String.utf8EncodeChar, if_neg large] at member
  split_ifs at member <;> simp only [List.mem_cons, List.not_mem_nil, or_false] at member <;>
    rcases member with rfl | rfl | rfl | rfl <;> simp only [UInt8.toNat_ofNat'] <;> omega

theorem utf8EncodeChar_asciiChar {byte : UInt8} (ascii : byte.toNat < 128) :
    String.utf8EncodeChar (asciiChar byte) = [byte] := by
  have same := asciiChar_toNat ascii
  rw [utf8EncodeChar_ascii (same ▸ ascii), same, UInt8.ofNat_toNat]

/-! ## An encoder that keeps no percent sign -/

section encoders

variable {keep : UInt8 → Bool}

theorem decode_escape {byte : UInt8} (changed : ¬ keep byte) (rest : List Char) :
    decodeFrom 0 (encodeByte keep byte ++ rest) = byte :: decodeFrom 0 rest := by
  have small : byte.toNat < 256 := byte.toNat_lt_size
  have high := @hexValue_hexDigit (byte.toNat / 16) (by omega)
  have low := @hexValue_hexDigit (byte.toNat % 16) (by omega)
  have value : byte.toNat / 16 * 16 + byte.toNat % 16 = byte.toNat := by omega
  have names : escaped (hexDigit (byte.toNat / 16) :: hexDigit (byte.toNat % 16) :: rest) =
      some byte := by
    rw [escaped, high, low]
    dsimp only
    rw [value, UInt8.ofNat_toNat]
  rw [encodeByte, if_neg changed]
  show decodeFrom 0 ('%' :: hexDigit (byte.toNat / 16) :: hexDigit (byte.toNat % 16) :: rest) = _
  rw [decodeFrom, if_pos rfl, names]
  rfl

theorem decode_kept {byte : UInt8} (kept : keep byte) (ascii : byte.toNat < 128)
    (plain : byte ≠ 37) (rest : List Char) :
    decodeFrom 0 (encodeByte keep byte ++ rest) = byte :: decodeFrom 0 rest := by
  have other : asciiChar byte ≠ '%' := by
    intro same
    apply plain
    apply UInt8.toNat.inj
    rw [← asciiChar_toNat ascii, same]
    rfl
  rw [encodeByte, if_pos kept, List.singleton_append, decodeFrom, if_neg other,
    utf8EncodeChar_asciiChar ascii, List.singleton_append]

theorem decode_encode_append (ascii : ∀ byte, keep byte → byte.toNat < 128) (bytes : Bytes)
    (plain : ∀ byte ∈ bytes, keep byte → byte ≠ 37) (rest : List Char) :
    decodeFrom 0 (encode keep bytes ++ rest) = bytes ++ decodeFrom 0 rest := by
  induction bytes with
  | nil => rfl
  | cons byte bytes ih =>
    have later := ih fun other member => plain other (by simp [member])
    rw [encode, List.flatMap_cons, List.append_assoc, ← encode]
    by_cases kept : keep byte
    · rw [decode_kept kept (ascii byte kept) (plain byte (by simp) kept), later]
      rfl
    · rw [decode_escape kept, later]
      rfl

theorem decode_encode (ascii : ∀ byte, keep byte → byte.toNat < 128) (percent : ¬ keep 37)
    (bytes : Bytes) : decode (encode keep bytes) = bytes := by
  have undone := decode_encode_append ascii bytes
    (fun byte _ kept same => percent (same ▸ kept)) []
  rw [List.append_nil] at undone
  exact undone.trans (List.append_nil bytes)

theorem length_encode (bytes : Bytes) :
    (encode keep bytes).length = bytes.length + 2 * bytes.countP (fun byte => !keep byte) := by
  induction bytes with
  | nil => rfl
  | cons byte bytes ih =>
    rw [encode, List.flatMap_cons, List.length_append, ← encode, ih, List.countP_cons,
      List.length_cons, encodeByte]
    by_cases kept : keep byte
    · simp [kept]
      omega
    · simp [kept]
      omega

/-- What holds of the kept characters, the percent sign and the digits holds of the text. -/
theorem encode_all {good : Char → Prop} (kept : ∀ byte, keep byte → good (asciiChar byte))
    (percent : good '%') (digit : ∀ n < 16, good (hexDigit n)) (bytes : Bytes) :
    ∀ c ∈ encode keep bytes, good c := by
  intro c member
  obtain ⟨byte, -, written⟩ := List.mem_flatMap.mp member
  have small : byte.toNat < 256 := byte.toNat_lt_size
  rw [encodeByte] at written
  split_ifs at written with keeps
  · rw [List.mem_singleton.mp written]
    exact kept byte keeps
  · simp only [List.mem_cons, List.not_mem_nil, or_false] at written
    rcases written with rfl | rfl | rfl
    · exact percent
    · exact digit _ (by omega)
    · exact digit _ (by omega)

theorem encode_ascii (ascii : ∀ byte, keep byte → byte.toNat < 128) (bytes : Bytes) :
    ∀ c ∈ encode keep bytes, c.toNat < 128 := by
  apply encode_all
  · intro byte kept
    rw [asciiChar_toNat (ascii byte kept)]
    exact ascii byte kept
  · decide
  · intro n digit
    exact hexDigit_ascii digit

theorem encode_ne_nil {bytes : Bytes} (some : bytes ≠ []) : encode keep bytes ≠ [] := by
  intro empty
  have size := @length_encode keep bytes
  rw [empty, List.length_nil] at size
  exact some (List.length_eq_zero_iff.mp (by omega))

end encoders

/-! ## An encoder that keeps the percent sign -/

/-- Keeps ASCII only, with the percent sign and the hexadecimal digits. -/
structure Transparent (keep : UInt8 → Bool) : Prop where
  ascii : ∀ byte, keep byte → byte.toNat < 128
  percent : keep 37
  digits : ∀ c, (hexValue c).isSome → keep (UInt8.ofNat c.toNat)

section transparent

variable {keep : UInt8 → Bool}

theorem hexValue_ascii {c : Char} (digit : (hexValue c).isSome) : c.toNat < 128 := by
  rw [hexValue] at digit
  split_ifs at digit
  · omega
  · omega
  · omega
  · cases digit

theorem ofNat_toNat {c : Char} (ascii : c.toNat < 128) :
    (UInt8.ofNat c.toNat).toNat = c.toNat := by
  rw [UInt8.toNat_ofNat']
  omega

theorem asciiChar_ofNat {c : Char} (ascii : c.toNat < 128) :
    asciiChar (UInt8.ofNat c.toNat) = c := by
  rw [asciiChar, ofNat_toNat ascii, Char.ofNat_toNat]

theorem encode_digit (transparent : Transparent keep) {c : Char}
    (digit : (hexValue c).isSome) : encode keep (String.utf8EncodeChar c) = [c] := by
  have ascii := hexValue_ascii digit
  rw [utf8EncodeChar_ascii ascii, encode, List.flatMap_singleton, encodeByte,
    if_pos (transparent.digits c digit), asciiChar_ofNat ascii]

/-- The text of a character starts with itself or with a percent sign. -/
theorem encode_head (transparent : Transparent keep) (c : Char) :
    ∃ first rest, encode keep (String.utf8EncodeChar c) = first :: rest ∧
      (first = c ∨ first = '%') := by
  by_cases ascii : c.toNat < 128
  · rw [utf8EncodeChar_ascii ascii, encode, List.flatMap_singleton, encodeByte]
    split_ifs
    · exact ⟨_, _, rfl, .inl (asciiChar_ofNat ascii)⟩
    · exact ⟨_, _, rfl, .inr rfl⟩
  · have wide := utf8EncodeChar_wide ascii
    cases bytes : String.utf8EncodeChar c with
    | nil =>
      have size := String.length_utf8EncodeChar c
      rw [bytes] at size
      have positive := c.utf8Size_pos
      rw [← size] at positive
      exact absurd positive (Nat.lt_irrefl 0)
    | cons byte others =>
      have large := wide byte (by rw [bytes]; simp)
      have changed : ¬ keep byte := by
        intro kept
        have small := transparent.ascii byte kept
        omega
      rw [encode, List.flatMap_cons, encodeByte, if_neg changed]
      exact ⟨_, _, rfl, .inr rfl⟩

theorem escaped_none {c : Char} (other : hexValue c = none) (rest : List Char) :
    escaped (c :: rest) = none := by
  cases rest with
  | nil => rfl
  | cons second rest => rw [escaped, other]

theorem escaped_second_none {c : Char} (other : hexValue c = none) (first : Char)
    (rest : List Char) : escaped (first :: c :: rest) = none := by
  rw [escaped, other]
  cases hexValue first with
  | none => rfl
  | some high => rfl

theorem encode_cons (c : Char) (text : List Char) :
    encode keep (utf8 (c :: text)) =
      encode keep (String.utf8EncodeChar c) ++ encode keep (utf8 text) := by
  rw [utf8, List.flatMap_cons, encode, List.flatMap_append, ← utf8, ← encode, ← encode]

theorem hexValue_head {c first : Char} (other : hexValue c = none)
    (head : first = c ∨ first = '%') : hexValue first = none := by
  cases head with
  | inl same => rw [same, other]
  | inr percent => rw [percent]; rfl

/-- What is encoded behind a percent sign is an escape if and only if it was one. -/
theorem escaped_encode (transparent : Transparent keep) (text : List Char) :
    escaped (encode keep (utf8 text)) = escaped text := by
  cases text with
  | nil => rfl
  | cons first rest =>
    rw [encode_cons]
    cases firstValue : hexValue first with
    | none =>
      obtain ⟨head, tail, same, kind⟩ := encode_head transparent first
      rw [same, List.cons_append, escaped_none (hexValue_head firstValue kind),
        escaped_none firstValue]
    | some high =>
      rw [encode_digit transparent (by rw [firstValue]; rfl)]
      cases rest with
      | nil => rfl
      | cons second rest =>
        rw [encode_cons]
        cases secondValue : hexValue second with
        | none =>
          obtain ⟨head, tail, same, kind⟩ := encode_head transparent second
          rw [List.singleton_append, same, List.cons_append,
            escaped_second_none (hexValue_head secondValue kind),
            escaped_second_none secondValue]
        | some low =>
          rw [encode_digit transparent (by rw [secondValue]; rfl)]
          rfl

theorem escaped_digits {text : List Char} {byte : UInt8} (escape : escaped text = some byte) :
    ∃ first second rest, text = first :: second :: rest ∧ (hexValue first).isSome ∧
      (hexValue second).isSome := by
  cases text with
  | nil => cases escape
  | cons first rest =>
    cases firstValue : hexValue first with
    | none => rw [escaped_none firstValue] at escape; cases escape
    | some high =>
      cases rest with
      | nil => cases escape
      | cons second rest =>
        cases secondValue : hexValue second with
        | none => rw [escaped_second_none secondValue] at escape; cases escape
        | some low =>
          exact ⟨first, second, rest, rfl, by rw [firstValue]; rfl, by rw [secondValue]; rfl⟩

theorem utf8EncodeChar_plain {c : Char} (other : c ≠ '%') :
    ∀ byte ∈ String.utf8EncodeChar c, byte ≠ 37 := by
  intro byte member same
  by_cases ascii : c.toNat < 128
  · rw [utf8EncodeChar_ascii ascii, List.mem_singleton] at member
    apply other
    rw [← asciiChar_ofNat ascii, ← member, same]
    rfl
  · have wide := utf8EncodeChar_wide ascii byte member
    rw [same] at wide
    exact absurd wide (by decide)

/-- The decoder reads a transparently encoded text as the text itself. -/
theorem decode_encode_utf8 (transparent : Transparent keep) (text : List Char) :
    decode (encode keep (utf8 text)) = decode text := by
  induction size : text.length using Nat.strongRecOn generalizing text with
  | ind n ih =>
    cases text with
    | nil => rfl
    | cons c rest =>
      have shorter : rest.length < n := by
        rw [← size, List.length_cons]
        exact Nat.lt_succ_self _
      have later : decodeFrom 0 (encode keep (utf8 rest)) = decodeFrom 0 rest :=
        ih rest.length shorter rest rfl
      rw [encode_cons]
      by_cases sign : c = '%'
      · have text : encode keep (String.utf8EncodeChar '%') = ['%'] := by
          show encodeByte keep 37 ++ [] = ['%']
          rw [encodeByte, if_pos transparent.percent]
          rfl
        rw [sign, text, List.singleton_append, decode, decode, decodeFrom, decodeFrom, if_pos rfl,
          if_pos rfl, escaped_encode transparent]
        cases escape : escaped rest with
        | none =>
          dsimp only
          rw [later]
        | some byte =>
          obtain ⟨first, second, others, same, digit, digit'⟩ := escaped_digits escape
          have least : others.length < n := by
            rw [same, List.length_cons, List.length_cons] at shorter
            omega
          dsimp only
          rw [same, encode_cons, encode_cons, encode_digit transparent digit,
            encode_digit transparent digit']
          show byte :: decodeFrom 0 (encode keep (utf8 others)) = byte :: decodeFrom 0 others
          exact congrArg (byte :: ·) (ih others.length least others rfl)
      · rw [decode, decode_encode_append transparent.ascii _
          (fun byte member _ => utf8EncodeChar_plain sign byte member), later, decode, decodeFrom,
          if_neg sign]

end transparent

/-! ## What the decoder makes of a text -/

theorem utf8_cons (c : Char) (text : List Char) :
    utf8 (c :: text) = String.utf8EncodeChar c ++ utf8 text := List.flatMap_cons

theorem decode_plain {text : List Char} (plain : ¬ hasEscape text) : decode text = utf8 text := by
  induction text with
  | nil => rfl
  | cons c rest ih =>
    rw [hasEscape, Bool.or_eq_true, not_or] at plain
    have later : decodeFrom 0 rest = utf8 rest := ih plain.2
    rw [decode, decodeFrom, utf8_cons, later]
    by_cases sign : c = '%'
    · have none : escaped rest = none := by
        cases escape : escaped rest with
        | none => rfl
        | some byte => exact absurd (by simp [sign, escape]) plain.1
      rw [if_pos sign, none, sign]
      rfl
    · rw [if_neg sign]

theorem decode_ne_nil {text : List Char} (some : text ≠ []) : decode text ≠ [] := by
  cases text with
  | nil => exact absurd rfl some
  | cons c rest =>
    rw [decode, decodeFrom]
    by_cases sign : c = '%'
    · rw [if_pos sign]
      cases escaped rest with
      | none => simp
      | some byte => simp
    · rw [if_neg sign]
      intro empty
      have size := congrArg List.length (List.append_eq_nil_iff.mp empty).1
      rw [String.length_utf8EncodeChar] at size
      exact absurd size (Nat.ne_of_gt c.utf8Size_pos)

theorem decodeFrom_length_le (used : ℕ) (text : List Char) :
    (decodeFrom used text).length ≤ (utf8 (text.drop used)).length := by
  induction text generalizing used with
  | nil => cases used with
    | zero => exact Nat.le_refl 0
    | succ used => exact Nat.le_refl 0
  | cons c rest ih =>
    cases used with
    | succ used => exact ih used
    | zero =>
      rw [decodeFrom, List.drop_zero, utf8_cons, List.length_append,
        String.length_utf8EncodeChar]
      have positive := c.utf8Size_pos
      have later := ih 0
      rw [List.drop_zero] at later
      by_cases sign : c = '%'
      · rw [if_pos sign]
        cases escape : escaped rest with
        | none =>
          dsimp only
          rw [List.length_cons]
          omega
        | some byte =>
          obtain ⟨first, second, others, same, -, -⟩ := escaped_digits escape
          have behind := ih 2
          dsimp only
          rw [List.length_cons]
          rw [same] at behind ⊢
          rw [utf8_cons, utf8_cons, List.length_append, List.length_append]
          rw [List.drop_succ_cons, List.drop_succ_cons, List.drop_zero] at behind
          omega
      · rw [if_neg sign, List.length_append, String.length_utf8EncodeChar]
        omega

theorem decode_length_lt {text : List Char} (escapes : hasEscape text) :
    (decode text).length < (utf8 text).length := by
  induction text with
  | nil => cases escapes
  | cons c rest ih =>
    have positive := c.utf8Size_pos
    rw [decode, decodeFrom, utf8_cons, List.length_append, String.length_utf8EncodeChar]
    by_cases sign : c = '%'
    · rw [if_pos sign]
      cases escape : escaped rest with
      | none =>
        have later : (decodeFrom 0 rest).length < (utf8 rest).length := by
          apply ih
          simpa [hasEscape, escape] using escapes
        dsimp only
        rw [List.length_cons]
        omega
      | some byte =>
        obtain ⟨first, second, others, same, -, -⟩ := escaped_digits escape
        have behind := decodeFrom_length_le 2 rest
        have positive' := first.utf8Size_pos
        dsimp only
        rw [List.length_cons]
        rw [same] at behind ⊢
        rw [utf8_cons, utf8_cons, List.length_append, List.length_append,
          String.length_utf8EncodeChar]
        rw [List.drop_succ_cons, List.drop_succ_cons, List.drop_zero] at behind
        omega
    · have later : (decodeFrom 0 rest).length < (utf8 rest).length := by
        apply ih
        simpa [hasEscape, sign] using escapes
      rw [if_neg sign, List.length_append, String.length_utf8EncodeChar]
      omega


end NazoAuthCtl.PercentCoding
