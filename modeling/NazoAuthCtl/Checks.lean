import Mathlib.Logic.Basic

/-!
# Sequences of checks

A check either passes or reports its error. A sequence passes exactly when each of its
checks does, and an error that is reported in other words changes no success.
-/

set_option autoImplicit false
set_option linter.all false

namespace NazoAuthCtl.Checks

variable {ε ε' α β : Type}

def check (c : Prop) [Decidable c] (error : ε) : Except ε Unit :=
  if c then .ok () else .error error

/-- The check of a value that may be absent. -/
def checkOptional (validate : α → Except ε Unit) : Option α → Except ε Unit
  | none => .ok ()
  | some value => validate value

/-- The checks of a list, each of them with the entries before it, the last one first. -/
def checkEach (validate : List α → α → Except ε Unit) : List α → List α → Except ε Unit
  | _, [] => .ok ()
  | before, entry :: rest => do
    validate before entry
    checkEach validate (entry :: before) rest

theorem check_ok {c : Prop} [Decidable c] {error : ε} {u : Unit} :
    check c error = .ok u ↔ c := by
  unfold check
  by_cases holds : c
  · simp [holds]
  · simp [holds]

theorem bind_ok {x : Except ε α} {f : α → Except ε β} {b : β} :
    x >>= f = .ok b ↔ ∃ a, x = .ok a ∧ f a = .ok b := by
  cases x with
  | error e => simp [bind, Except.bind]
  | ok a => simp [bind, Except.bind]

theorem pure_ok {a b : α} : (pure a : Except ε α) = .ok b ↔ a = b := by
  simp [pure, Except.pure]

/-- A check has one way to pass. -/
theorem exists_unit {p : Unit → Prop} : (∃ u, p u) ↔ p () := by
  constructor
  · rintro ⟨⟨⟩, holds⟩
    exact holds
  · intro holds
    exact ⟨(), holds⟩

theorem mapError_ok {f : ε → ε'} {x : Except ε α} {a : α} :
    x.mapError f = .ok a ↔ x = .ok a := by
  cases x with
  | error e =>
    show Except.error (f e) = .ok a ↔ Except.error e = .ok a
    simp
  | ok b =>
    show Except.ok b = .ok a ↔ Except.ok b = .ok a
    simp

end NazoAuthCtl.Checks
