import Mathlib.Data.Nat.Notation
import Mathlib.Logic.Relation
import Mathlib.Tactic.Common

/-!
# Programs as trees of calls

A flow is a tree. Each node asks its surroundings for one reply and goes on with what it is
told. What a call does to the state it is made on is not part of the tree, so the same flow
can be run alone, cut off after any call, or taken in turn with other flows.
-/

set_option autoImplicit false
set_option linter.all false

namespace NazoAuthCtl.CallFlow

inductive Flow (Call : Type) (Reply : Call → Type) (ε α : Type) where
  | done (result : Except ε α)
  | call (c : Call) (next : Except ε (Reply c) → Flow Call Reply ε α)

variable {Call : Type} {Reply : Call → Type} {ε α β σ γ : Type}

namespace Flow

def pure (a : α) : Flow Call Reply ε α := done (.ok a)

def bind : Flow Call Reply ε α → (α → Flow Call Reply ε β) → Flow Call Reply ε β
  | done (.ok a), f => f a
  | done (.error e), _ => done (.error e)
  | call c next, f => call c fun r => (next r).bind f

instance : Monad (Flow Call Reply ε) where
  pure := Flow.pure
  bind := Flow.bind

def fail (e : ε) : Flow Call Reply ε α := done (.error e)

def ofExcept (x : Except ε α) : Flow Call Reply ε α := done x

def require (p : Prop) [Decidable p] (e : ε) : Flow Call Reply ε Unit :=
  if p then pure () else fail e

def onlyIf (p : Prop) [Decidable p] (f : Flow Call Reply ε Unit) : Flow Call Reply ε Unit :=
  if p then f else pure ()

/-- A call whose failure ends the flow. -/
def perform (c : Call) : Flow Call Reply ε (Reply c) := call c done

/-- A call whose failure the flow looks at. -/
def attempt (c : Call) : Flow Call Reply ε (Except ε (Reply c)) := call c fun r => done (.ok r)

/-! ## One flow on its own -/

section alone

/-- What each call answers and makes of the state. -/
abbrev Handler (Call : Type) (Reply : Call → Type) (ε σ : Type) : Type :=
  (c : Call) → σ → Except ε (Reply c) × σ

variable (h : Handler Call Reply ε σ)

def exec : Flow Call Reply ε α → σ → Except ε α × σ
  | done r, s => (r, s)
  | call c next, s => (next (h c s).1).exec (h c s).2

@[simp] theorem exec_done (r : Except ε α) (s : σ) :
    (done r : Flow Call Reply ε α).exec h s = (r, s) := rfl

theorem exec_call (c : Call) (next : Except ε (Reply c) → Flow Call Reply ε α) (s : σ) :
    (call c next).exec h s = (next (h c s).1).exec h (h c s).2 := rfl

@[simp] theorem exec_pure (a : α) (s : σ) :
    (Flow.pure a : Flow Call Reply ε α).exec h s = (.ok a, s) := rfl

@[simp] theorem exec_monad_pure (a : α) (s : σ) :
    (Pure.pure a : Flow Call Reply ε α).exec h s = (.ok a, s) := rfl

@[simp] theorem exec_fail (e : ε) (s : σ) :
    (fail e : Flow Call Reply ε α).exec h s = (.error e, s) := rfl

@[simp] theorem exec_ofExcept (x : Except ε α) (s : σ) :
    (ofExcept x : Flow Call Reply ε α).exec h s = (x, s) := rfl

theorem exec_bind (f : Flow Call Reply ε α) (g : α → Flow Call Reply ε β) (s : σ) :
    (f >>= g).exec h s =
      match f.exec h s with
      | (.ok a, s') => (g a).exec h s'
      | (.error e, s') => (.error e, s') := by
  show (f.bind g).exec h s = _
  induction f generalizing s with
  | done r =>
    cases r with
    | ok a => rfl
    | error e => rfl
  | call c next ih => exact ih (h c s).1 (h c s).2

theorem exec_bind_ok {f : Flow Call Reply ε α} {g : α → Flow Call Reply ε β} {s s' : σ} {a : α}
    (run : f.exec h s = (.ok a, s')) : (f >>= g).exec h s = (g a).exec h s' := by
  rw [exec_bind, run]

theorem exec_bind_error {f : Flow Call Reply ε α} {g : α → Flow Call Reply ε β} {s s' : σ} {e : ε}
    (run : f.exec h s = (.error e, s')) : (f >>= g).exec h s = (.error e, s') := by
  rw [exec_bind, run]

theorem exec_onlyIf_true {p : Prop} [Decidable p] (f : Flow Call Reply ε Unit) (s : σ)
    (holds : p) : (onlyIf p f).exec h s = f.exec h s := by
  rw [onlyIf, if_pos holds]

theorem exec_onlyIf_false {p : Prop} [Decidable p] (f : Flow Call Reply ε Unit) (s : σ)
    (fails : ¬ p) : (onlyIf p f).exec h s = (.ok (), s) := by
  rw [onlyIf, if_neg fails]
  rfl

theorem exec_require_true {p : Prop} [Decidable p] (e : ε) (s : σ) (holds : p) :
    (require p e : Flow Call Reply ε Unit).exec h s = (.ok (), s) := by
  rw [require, if_pos holds]
  rfl

theorem exec_require_false {p : Prop} [Decidable p] (e : ε) (s : σ) (fails : ¬ p) :
    (require p e : Flow Call Reply ε Unit).exec h s = (.error e, s) := by
  rw [require, if_neg fails]
  rfl

end alone

/-! ## What a flow keeps to -/

section rules

/-- Which calls are allowed with what the flow has been told, and what a reply adds to it. -/
structure Rules (Call : Type) (Reply : Call → Type) (ε κ : Type) where
  allow : Call → κ → Prop
  told : (c : Call) → Except ε (Reply c) → κ → κ

variable {κ : Type} (rules : Rules Call Reply ε κ)

/-- Whatever is replied, every call is allowed, and `Q` holds of a result that is reached. -/
def Obeys (Q : α → κ → Prop) : Flow Call Reply ε α → κ → Prop
  | done (.ok a), k => Q a k
  | done (.error _), _ => True
  | call c next, k => rules.allow c k ∧ ∀ r, (next r).Obeys Q (rules.told c r k)

variable {rules} {Q : α → κ → Prop} {k : κ}

@[simp] theorem obeys_pure (a : α) :
    (pure a : Flow Call Reply ε α).Obeys rules Q k ↔ Q a k := Iff.rfl

@[simp] theorem obeys_monad_pure (a : α) :
    (Pure.pure a : Flow Call Reply ε α).Obeys rules Q k ↔ Q a k := Iff.rfl

@[simp] theorem obeys_ofExcept (x : Except ε α) :
    (ofExcept x : Flow Call Reply ε α).Obeys rules Q k ↔ ∀ a, x = .ok a → Q a k := by
  cases x with
  | ok a =>
    constructor
    · intro holds b same
      cases same
      exact holds
    · intro holds
      exact holds a rfl
  | error e =>
    constructor
    · intro _ b same
      cases same
    · intro _
      trivial

@[simp] theorem obeys_perform (c : Call) {Q : Reply c → κ → Prop} :
    (perform c : Flow Call Reply ε (Reply c)).Obeys rules Q k ↔
      rules.allow c k ∧ ∀ a, Q a (rules.told c (.ok a) k) := by
  constructor
  · rintro ⟨allowed, holds⟩
    exact ⟨allowed, fun a => holds (.ok a)⟩
  · rintro ⟨allowed, holds⟩
    refine ⟨allowed, fun r => ?_⟩
    cases r with
    | ok a => exact holds a
    | error e => trivial

@[simp] theorem obeys_attempt (c : Call) {Q : Except ε (Reply c) → κ → Prop} :
    (attempt c : Flow Call Reply ε _).Obeys rules Q k ↔
      rules.allow c k ∧ ∀ r, Q r (rules.told c r k) := Iff.rfl

@[simp] theorem obeys_require {p : Prop} [Decidable p] (e : ε) {Q : Unit → κ → Prop} :
    (require p e : Flow Call Reply ε Unit).Obeys rules Q k ↔ (p → Q () k) := by
  by_cases holds : p
  · rw [require, if_pos holds]
    exact ⟨fun q _ => q, fun q => q holds⟩
  · rw [require, if_neg holds]
    exact ⟨fun _ q => absurd q holds, fun _ => trivial⟩

@[simp] theorem obeys_onlyIf {p : Prop} [Decidable p] (f : Flow Call Reply ε Unit)
    {Q : Unit → κ → Prop} :
    (onlyIf p f).Obeys rules Q k ↔ (p → f.Obeys rules Q k) ∧ (¬ p → Q () k) := by
  by_cases holds : p
  · rw [onlyIf, if_pos holds]
    exact ⟨fun q => ⟨fun _ => q, fun no => absurd holds no⟩, fun q => q.1 holds⟩
  · rw [onlyIf, if_neg holds]
    exact ⟨fun q => ⟨fun yes => absurd yes holds, fun _ => q⟩, fun q => q.2 holds⟩

theorem obeys_bind (f : Flow Call Reply ε α) (g : α → Flow Call Reply ε β) {Q : β → κ → Prop} :
    (f >>= g).Obeys rules Q k ↔ f.Obeys rules (fun a => (g a).Obeys rules Q) k := by
  show (f.bind g).Obeys rules Q k ↔ _
  induction f generalizing k with
  | done r =>
    cases r with
    | ok a => exact Iff.rfl
    | error e => exact Iff.rfl
  | call c next ih => exact and_congr_right fun _ => forall_congr' fun r => ih r

theorem Obeys.imp {f : Flow Call Reply ε α} {Q' : α → κ → Prop} (obeys : f.Obeys rules Q k)
    (weaker : ∀ a k', Q a k' → Q' a k') : f.Obeys rules Q' k := by
  induction f generalizing k with
  | done r =>
    cases r with
    | ok a => exact weaker a k obeys
    | error e => trivial
  | call c next ih => exact ⟨obeys.1, fun r => ih r (obeys.2 r)⟩

/-- A first part after which nothing needs to be known. -/
theorem obeys_andThen {f : Flow Call Reply ε α} {g : α → Flow Call Reply ε β} {Q : β → κ → Prop}
    (first : f.Obeys rules (fun _ _ => True) k) (second : ∀ a k', (g a).Obeys rules Q k') :
    (f >>= g).Obeys rules Q k :=
  (obeys_bind f g).mpr (first.imp fun a k' _ => second a k')

/-- Some replies lead to a call of the kind `hit` with no call of the kind `cut` before it. -/
def Reaches (hit cut : Call → Prop) : Flow Call Reply ε α → Prop
  | done _ => False
  | call c next => hit c ∨ ¬ cut c ∧ ∃ r, (next r).Reaches hit cut

/-- What a call needs is already there when only a cut can add it. -/
theorem Obeys.reaches {f : Flow Call Reply ε α} {hit cut : Call → Prop} {P : κ → Prop}
    (obeys : f.Obeys rules Q k) (needs : ∀ c k, hit c → rules.allow c k → P k)
    (added : ∀ c r k, ¬ cut c → P (rules.told c r k) → P k) (reaches : f.Reaches hit cut) :
    P k := by
  induction f generalizing k with
  | done r => exact absurd reaches id
  | call c next ih =>
    rcases reaches with hits | ⟨uncut, r, later⟩
    · exact needs c k hits obeys.1
    · exact added c r k uncut (ih r (obeys.2 r) later)

end rules

end Flow

end NazoAuthCtl.CallFlow
