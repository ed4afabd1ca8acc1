import Mathlib.Algebra.BigOperators.Group.List.Basic
import Mathlib.Algebra.GroupWithZero.Nat

/-!
# Values on lines of text

A codec writes every value on one line and reads it back, with or without the
newline. Nothing else is asked of the encoding, so that a bound on messages is a
bound on the length of what a codec writes. Lists of numbers have a codec in
unary, and whatever embeds into them has one.
-/

set_option autoImplicit false
set_option linter.all false

namespace NazoAuthCtl.LineCodec

variable {α : Type}

abbrev newline : UInt8 := 10

/-- A compact form without a line break, which a trailing line break does not disturb. -/
structure Codec (α : Type) where
  encode : α → List UInt8
  decode : List UInt8 → Option α
  faithful : ∀ value, decode (encode value) = some value
  terminated : ∀ value, decode (encode value ++ [newline]) = some value
  compact : ∀ value, newline ∉ encode value

/-- Up to and with the first line break, if there is one. -/
def readLine : List UInt8 → List UInt8
  | [] => []
  | byte :: rest => if byte = newline then [byte] else byte :: readLine rest

theorem readLine_line {line rest : List UInt8} (compact : newline ∉ line) :
    readLine (line ++ newline :: rest) = line ++ [newline] := by
  induction line with
  | nil => rfl
  | cons byte line ih =>
    obtain ⟨first, others⟩ := not_or.mp (List.mem_cons.not.mp compact)
    rw [List.cons_append, readLine, if_neg (Ne.symm first), ih others]
    rfl

/-! ## Numbers in unary -/

def encodeNumbers : List ℕ → List UInt8
  | [] => []
  | n :: numbers => List.replicate n 1 ++ 0 :: encodeNumbers numbers

/-- Reads ones up to a zero; other bytes do not count. -/
def decodeNumbers (count : ℕ) : List UInt8 → List ℕ
  | [] => []
  | byte :: rest =>
    if byte = 0 then count :: decodeNumbers 0 rest
    else if byte = 1 then decodeNumbers (count + 1) rest
    else decodeNumbers count rest

theorem decodeNumbers_ones (count n : ℕ) (rest : List UInt8) :
    decodeNumbers count (List.replicate n 1 ++ rest) = decodeNumbers (count + n) rest := by
  induction n generalizing count with
  | zero => rfl
  | succ n ih =>
    rw [List.replicate_succ, List.cons_append, decodeNumbers, if_neg (by decide), if_pos rfl, ih,
      Nat.add_right_comm, Nat.add_assoc]

theorem decodeNumbers_encode (numbers : List ℕ) {rest : List UInt8}
    (ends : decodeNumbers 0 rest = []) : decodeNumbers 0 (encodeNumbers numbers ++ rest) =
      numbers := by
  induction numbers with
  | nil => exact ends
  | cons n numbers ih =>
    rw [encodeNumbers, List.append_assoc, decodeNumbers_ones, List.cons_append, decodeNumbers,
      if_pos rfl, ih, Nat.zero_add]

theorem encodeNumbers_compact (numbers : List ℕ) : newline ∉ encodeNumbers numbers := by
  induction numbers with
  | nil => exact List.not_mem_nil
  | cons n numbers ih => simp [encodeNumbers, ih, newline]

theorem length_encodeNumbers (numbers : List ℕ) :
    (encodeNumbers numbers).length = numbers.sum + numbers.length := by
  induction numbers with
  | nil => rfl
  | cons n numbers ih =>
    simp only [encodeNumbers, List.length_append, List.length_replicate, List.length_cons, ih,
      List.sum_cons]
    omega

/-- The codec of a type that embeds into the lists of numbers. -/
def unary (numbers : α → List ℕ) (value : List ℕ → Option α)
    (embeds : ∀ a, value (numbers a) = some a) : Codec α where
  encode a := encodeNumbers (numbers a)
  decode bytes := value (decodeNumbers 0 bytes)
  faithful a := by
    have read : decodeNumbers 0 (encodeNumbers (numbers a) ++ []) = numbers a :=
      decodeNumbers_encode (numbers a) rfl
    rw [List.append_nil] at read
    rw [read, embeds]
  terminated a := by rw [decodeNumbers_encode (numbers a) rfl, embeds]
  compact a := encodeNumbers_compact (numbers a)

end NazoAuthCtl.LineCodec
