import Mathlib.Data.Int.Notation
import Mathlib.Data.Nat.Notation
import Mathlib.Logic.Relation
import Mathlib.Tactic.Common

/-!
# Programs whose effects can fail or be cut off

A program is a sequence of effects on a durable state. The environment of one
run says, for each effect, whether it takes place, is refused without changing
anything, or is never reached because the process is lost. A lost process is an
outcome of its own: no handler of the program runs after it, and the durable
state stays as the last effect left it.
This module holds the program type, its combinators and the rules by which a
postcondition and a frame are carried through them. Which effects a program has
and what they do is left to its users.
-/

set_option autoImplicit false
set_option linter.all false

namespace NazoAuthCtl.FaultProgram

inductive Fault (δ : Type) where
  | none
  | fail (detail : δ)
  | crash
  deriving DecidableEq, Repr

inductive Outcome (ε α : Type) where
  | ok (value : α)
  | error (failure : ε)
  | crashed
  deriving DecidableEq, Repr

def Program (ρ σ ε α : Type) : Type := ρ → σ → Outcome ε α × σ

variable {ρ σ ε δ α β : Type}

theorem ok_bind (a : α) (f : α → Except ε β) : ((Except.ok a : Except ε α) >>= f) = f a := rfl

theorem error_bind (x : ε) (f : α → Except ε β) :
    ((Except.error x : Except ε α) >>= f) = .error x := rfl

theorem bind_eq_ok {x : Except ε α} {f : α → Except ε β} {b : β}
    (h : (x >>= f) = .ok b) : ∃ a, x = .ok a ∧ f a = .ok b := by
  cases x with
  | error failure => cases h
  | ok a => exact ⟨a, rfl, h⟩

theorem bind_eq_error {x : Except ε α} {f : α → Except ε β} {failure : ε}
    (h : (x >>= f) = .error failure) :
    x = .error failure ∨ ∃ a, x = .ok a ∧ f a = .error failure := by
  cases x with
  | error y =>
    cases h
    exact .inl rfl
  | ok a => exact .inr ⟨a, rfl, h⟩

def Outcome.ofExcept : Except ε α → Outcome ε α
  | .ok a => .ok a
  | .error x => .error x

@[simp] theorem Outcome.ofExcept_ok (a : α) :
    Outcome.ofExcept (.ok a : Except ε α) = .ok a := rfl

@[simp] theorem Outcome.ofExcept_error (x : ε) :
    Outcome.ofExcept (.error x : Except ε α) = .error x := rfl

namespace Program

def pure (a : α) : Program ρ σ ε α := fun _ s => (.ok a, s)

def bind (p : Program ρ σ ε α) (f : α → Program ρ σ ε β) : Program ρ σ ε β :=
  fun e s =>
    match p e s with
    | (.ok a, s') => f a e s'
    | (.error x, s') => (.error x, s')
    | (.crashed, s') => (.crashed, s')

instance : Monad (Program ρ σ ε) where
  pure := Program.pure
  bind := Program.bind

def throw (x : ε) : Program ρ σ ε α := fun _ s => (.error x, s)

/-- A process that is gone. -/
def lost : Program ρ σ ε α := fun _ s => (.crashed, s)

def get : Program ρ σ ε σ := fun _ s => (.ok s, s)

def environment : Program ρ σ ε ρ := fun e s => (.ok e, s)

def modify (f : σ → σ) : Program ρ σ ε Unit := fun _ s => (.ok (), f s)

def ofExcept : Except ε α → Program ρ σ ε α
  | .ok a => Program.pure a
  | .error x => throw x

def require (c : Prop) [Decidable c] (x : ε) : Program ρ σ ε Unit :=
  if c then Program.pure () else throw x

def onlyIf (c : Prop) [Decidable c] (p : Program ρ σ ε Unit) : Program ρ σ ε Unit :=
  if c then p else Program.pure ()

/-- One effect. A refusal carries a detail from the environment, which the call
site turns into its own failure. -/
def effect (fault : ρ → Fault δ) (refuse : δ → ε) (body : Program ρ σ ε α) :
    Program ρ σ ε α :=
  fun e s =>
    match fault e with
    | .none => body e s
    | .fail d => (.error (refuse d), s)
    | .crash => (.crashed, s)

/-- The result of a program as a value, for a caller that inspects its failure.
A lost process is not inspected by anyone. -/
def attempt (p : Program ρ σ ε α) : Program ρ σ ε (Except ε α) :=
  fun e s =>
    match p e s with
    | (.ok a, s') => (.ok (.ok a), s')
    | (.error x, s') => (.ok (.error x), s')
    | (.crashed, s') => (.crashed, s')

/-- A program on a part of a larger state. -/
def zoom {τ : Type} (part : τ → σ) (put : σ → τ → τ) (p : Program ρ σ ε α) :
    Program ρ τ ε α :=
  fun e t => ((p e (part t)).1, put (p e (part t)).2 t)

def Ensures (p : Program ρ σ ε α) (e : ρ) (Q : Outcome ε α → σ → Prop) (s : σ) : Prop :=
  Q (p e s).1 (p e s).2

/-- What a program's continuation owes when its first part ended in `o`. -/
def After (f : α → Program ρ σ ε β) (e : ρ) (Q : Outcome ε β → σ → Prop) :
    Outcome ε α → σ → Prop
  | .ok a, s => Ensures (f a) e Q s
  | .error x, s => Q (.error x) s
  | .crashed, s => Q .crashed s

section runs

variable {e : ρ} {s s' : σ}

@[simp] theorem run_pure (a : α) : (Pure.pure a : Program ρ σ ε α) e s = (.ok a, s) := rfl

@[simp] theorem run_throw (x : ε) : (throw x : Program ρ σ ε α) e s = (.error x, s) := rfl

@[simp] theorem run_get : (get : Program ρ σ ε σ) e s = (.ok s, s) := rfl

@[simp] theorem run_environment : (environment : Program ρ σ ε ρ) e s = (.ok e, s) := rfl

@[simp] theorem run_modify (f : σ → σ) :
    (modify f : Program ρ σ ε Unit) e s = (.ok (), f s) := rfl

@[simp] theorem run_ofExcept (r : Except ε α) :
    (ofExcept r : Program ρ σ ε α) e s = (Outcome.ofExcept r, s) := by
  cases r <;> rfl

theorem run_ofExcept_ok {a : α} :
    (ofExcept (.ok a) : Program ρ σ ε α) e s = (.ok a, s) := rfl

theorem run_require (c : Prop) [Decidable c] (x : ε) :
    (require c x : Program ρ σ ε Unit) e s = (if c then .ok () else .error x, s) := by
  by_cases h : c <;> simp [require, h, Program.pure, throw]

theorem run_onlyIf_true {c : Prop} [Decidable c] (p : Program ρ σ ε Unit) (h : c) :
    onlyIf c p e s = p e s := by
  rw [onlyIf, if_pos h]

theorem run_onlyIf_false {c : Prop} [Decidable c] (p : Program ρ σ ε Unit) (h : ¬c) :
    onlyIf c p e s = (.ok (), s) := by
  rw [onlyIf, if_neg h]
  rfl

theorem run_bind (p : Program ρ σ ε α) (f : α → Program ρ σ ε β) :
    (p >>= f) e s = match p e s with
      | (.ok a, s') => f a e s'
      | (.error x, s') => (.error x, s')
      | (.crashed, s') => (.crashed, s') := rfl

theorem run_bind_ok {p : Program ρ σ ε α} {f : α → Program ρ σ ε β} {a : α}
    (h : p e s = (.ok a, s')) : (p >>= f) e s = f a e s' := by
  rw [run_bind, h]

theorem run_bind_error {p : Program ρ σ ε α} {f : α → Program ρ σ ε β} {x : ε}
    (h : p e s = (.error x, s')) : (p >>= f) e s = (.error x, s') := by
  rw [run_bind, h]

theorem run_bind_crashed {p : Program ρ σ ε α} {f : α → Program ρ σ ε β}
    (h : p e s = (.crashed, s')) : (p >>= f) e s = (.crashed, s') := by
  rw [run_bind, h]

theorem run_bind_eq_ok {p : Program ρ σ ε α} {f : α → Program ρ σ ε β} {b : β}
    (h : (p >>= f) e s = (.ok b, s')) :
    ∃ a s₁, p e s = (.ok a, s₁) ∧ f a e s₁ = (.ok b, s') := by
  rw [run_bind] at h
  rcases hp : p e s with ⟨a | x | _, s₁⟩
  · rw [hp] at h
    exact ⟨a, s₁, rfl, h⟩
  · rw [hp] at h
    cases h
  · rw [hp] at h
    cases h

theorem bind_assoc {γ : Type} (p : Program ρ σ ε α) (f : α → Program ρ σ ε β)
    (g : β → Program ρ σ ε γ) : (p >>= f) >>= g = p >>= fun a => f a >>= g := by
  funext e s
  rw [run_bind, run_bind, run_bind]
  rcases p e s with ⟨a | x | _, s'⟩
  · exact (run_bind (f a) g).symm
  · rfl
  · rfl

theorem run_attempt (p : Program ρ σ ε α) :
    attempt p e s = match p e s with
      | (.ok a, s') => (.ok (.ok a), s')
      | (.error x, s') => (.ok (.error x), s')
      | (.crashed, s') => (.crashed, s') := rfl

end runs

section rules

variable {e : ρ} {s : σ}

@[simp] theorem after_ok (f : α → Program ρ σ ε β) (Q : Outcome ε β → σ → Prop) (a : α) :
    After f e Q (.ok a) s ↔ Ensures (f a) e Q s := Iff.rfl

@[simp] theorem after_error (f : α → Program ρ σ ε β) (Q : Outcome ε β → σ → Prop) (x : ε) :
    After f e Q (.error x) s ↔ Q (.error x) s := Iff.rfl

@[simp] theorem after_crashed (f : α → Program ρ σ ε β) (Q : Outcome ε β → σ → Prop) :
    After f e Q .crashed s ↔ Q .crashed s := Iff.rfl

theorem Ensures.mono {p : Program ρ σ ε α} {Q R : Outcome ε α → σ → Prop}
    (h : Ensures p e Q s) (imp : ∀ o s', Q o s' → R o s') : Ensures p e R s :=
  imp _ _ h

theorem Ensures.of_forall {p : Program ρ σ ε α} {Q : Outcome ε α → σ → Prop}
    (h : ∀ o s', Q o s') : Ensures p e Q s :=
  h _ _

theorem Ensures.and {p : Program ρ σ ε α} {Q R : Outcome ε α → σ → Prop}
    (hq : Ensures p e Q s) (hr : Ensures p e R s) :
    Ensures p e (fun o s' => Q o s' ∧ R o s') s :=
  ⟨hq, hr⟩

@[simp] theorem ensures_pure (a : α) (Q : Outcome ε α → σ → Prop) :
    Ensures (Pure.pure a : Program ρ σ ε α) e Q s ↔ Q (.ok a) s :=
  Iff.rfl

@[simp] theorem ensures_program_pure (a : α) (Q : Outcome ε α → σ → Prop) :
    Ensures (Program.pure a : Program ρ σ ε α) e Q s ↔ Q (.ok a) s :=
  Iff.rfl

@[simp] theorem ensures_throw (x : ε) (Q : Outcome ε α → σ → Prop) :
    Ensures (throw x : Program ρ σ ε α) e Q s ↔ Q (.error x) s :=
  Iff.rfl

@[simp] theorem ensures_lost (Q : Outcome ε α → σ → Prop) :
    Ensures (lost : Program ρ σ ε α) e Q s ↔ Q .crashed s :=
  Iff.rfl

@[simp] theorem ensures_get (Q : Outcome ε σ → σ → Prop) :
    Ensures (get : Program ρ σ ε σ) e Q s ↔ Q (.ok s) s :=
  Iff.rfl

@[simp] theorem ensures_environment (Q : Outcome ε ρ → σ → Prop) :
    Ensures (environment : Program ρ σ ε ρ) e Q s ↔ Q (.ok e) s :=
  Iff.rfl

@[simp] theorem ensures_modify (f : σ → σ) (Q : Outcome ε Unit → σ → Prop) :
    Ensures (modify f : Program ρ σ ε Unit) e Q s ↔ Q (.ok ()) (f s) :=
  Iff.rfl

@[simp] theorem ensures_require (c : Prop) [Decidable c] (x : ε)
    (Q : Outcome ε Unit → σ → Prop) :
    Ensures (require c x : Program ρ σ ε Unit) e Q s ↔
      (c → Q (.ok ()) s) ∧ (¬c → Q (.error x) s) := by
  by_cases h : c <;> simp [require, h]

@[simp] theorem ensures_onlyIf (c : Prop) [Decidable c] (p : Program ρ σ ε Unit)
    (Q : Outcome ε Unit → σ → Prop) :
    Ensures (onlyIf c p) e Q s ↔ (c → Ensures p e Q s) ∧ (¬c → Q (.ok ()) s) := by
  by_cases h : c <;> simp [onlyIf, h]

theorem ensures_ofExcept (r : Except ε α) (Q : Outcome ε α → σ → Prop) :
    Ensures (ofExcept r : Program ρ σ ε α) e Q s ↔
      (∀ a, r = .ok a → Q (.ok a) s) ∧ (∀ x, r = .error x → Q (.error x) s) := by
  cases r <;> simp [ofExcept]

theorem ensures_bind (p : Program ρ σ ε α) (f : α → Program ρ σ ε β)
    (Q : Outcome ε β → σ → Prop) :
    Ensures (p >>= f) e Q s ↔ Ensures p e (After f e Q) s := by
  change Ensures (Program.bind p f) e Q s ↔ _
  unfold Ensures Program.bind
  rcases p e s with ⟨o, s'⟩
  cases o <;> rfl

theorem ensures_effect (fault : ρ → Fault δ) (refuse : δ → ε) (body : Program ρ σ ε α)
    (Q : Outcome ε α → σ → Prop) :
    Ensures (effect fault refuse body) e Q s ↔
      (fault e = .none → Ensures body e Q s) ∧
      (∀ d, fault e = .fail d → Q (.error (refuse d)) s) ∧
      (fault e = .crash → Q .crashed s) := by
  unfold Ensures effect
  cases fault e <;> simp

theorem ensures_attempt (p : Program ρ σ ε α) (Q : Outcome ε (Except ε α) → σ → Prop) :
    Ensures (attempt p) e Q s ↔ Ensures p e
      (fun o s' => match o with
        | .ok a => Q (.ok (.ok a)) s'
        | .error x => Q (.ok (.error x)) s'
        | .crashed => Q .crashed s') s := by
  unfold Ensures attempt
  rcases p e s with ⟨o, s'⟩
  cases o <;> rfl

theorem Ensures.bind {p : Program ρ σ ε α} {f : α → Program ρ σ ε β}
    {P : Outcome ε α → σ → Prop} {Q : Outcome ε β → σ → Prop}
    (hp : Ensures p e P s) (hf : ∀ o s', P o s' → After f e Q o s') :
    Ensures (p >>= f) e Q s :=
  (ensures_bind p f Q).mpr (hp.mono hf)

end rules

/-- Every run of the program, in every environment and however it ends, relates
the state it started in to the state it leaves. -/
def Keeps (p : Program ρ σ ε α) (R : σ → σ → Prop) : Prop :=
  ∀ e s, R s (p e s).2

section frames

variable {R : σ → σ → Prop}

theorem Keeps.run {p : Program ρ σ ε α} (h : Keeps p R) {e : ρ} {s s' : σ} {o : Outcome ε α}
    (run : p e s = (o, s')) : R s s' := by
  have kept := h e s
  rwa [run] at kept

theorem keeps_pure (hrefl : ∀ s, R s s) (a : α) :
    Keeps (Pure.pure a : Program ρ σ ε α) R :=
  fun _ s => hrefl s

theorem keeps_throw (hrefl : ∀ s, R s s) (x : ε) :
    Keeps (throw x : Program ρ σ ε α) R :=
  fun _ s => hrefl s

theorem keeps_get (hrefl : ∀ s, R s s) : Keeps (get : Program ρ σ ε σ) R :=
  fun _ s => hrefl s

theorem keeps_environment (hrefl : ∀ s, R s s) :
    Keeps (environment : Program ρ σ ε ρ) R :=
  fun _ s => hrefl s

theorem keeps_ofExcept (hrefl : ∀ s, R s s) (r : Except ε α) :
    Keeps (ofExcept r : Program ρ σ ε α) R := by
  cases r with
  | ok a => exact fun _ s => hrefl s
  | error x => exact fun _ s => hrefl s

theorem keeps_require (hrefl : ∀ s, R s s) (c : Prop) [Decidable c] (x : ε) :
    Keeps (require c x : Program ρ σ ε Unit) R := by
  unfold require
  by_cases h : c
  · rw [if_pos h]
    exact fun _ s => hrefl s
  · rw [if_neg h]
    exact fun _ s => hrefl s

theorem keeps_modify (f : σ → σ) (h : ∀ s, R s (f s)) :
    Keeps (modify f : Program ρ σ ε Unit) R :=
  fun _ s => h s

theorem keeps_onlyIf (hrefl : ∀ s, R s s) (c : Prop) [Decidable c] {p : Program ρ σ ε Unit}
    (h : Keeps p R) : Keeps (onlyIf c p) R := by
  unfold onlyIf
  by_cases holds : c
  · rw [if_pos holds]
    exact h
  · rw [if_neg holds]
    exact fun _ s => hrefl s

theorem keeps_bind (htrans : ∀ a b c, R a b → R b c → R a c)
    {p : Program ρ σ ε α} {f : α → Program ρ σ ε β}
    (hp : Keeps p R) (hf : ∀ a, Keeps (f a) R) : Keeps (p >>= f) R := by
  intro e s
  have first := hp e s
  change R s (Program.bind p f e s).2
  unfold Program.bind
  rcases h : p e s with ⟨o, s'⟩
  rw [h] at first
  cases o with
  | ok a => exact htrans _ _ _ first (hf a e s')
  | error x => exact first
  | crashed => exact first

/-- A computed value may be taken for granted in what follows. -/
theorem keeps_ofExcept_bind (hrefl : ∀ s, R s s) {r : Except ε α} {f : α → Program ρ σ ε β}
    (h : ∀ a, r = .ok a → Keeps (f a) R) : Keeps (ofExcept r >>= f) R := by
  cases r with
  | ok a => exact h a rfl
  | error x => exact fun _ s => hrefl s

theorem keeps_effect (hrefl : ∀ s, R s s) (fault : ρ → Fault δ) (refuse : δ → ε)
    {body : Program ρ σ ε α} (h : Keeps body R) : Keeps (effect fault refuse body) R := by
  intro e s
  unfold effect
  cases fault e with
  | none => exact h e s
  | fail d => exact hrefl s
  | crash => exact hrefl s

theorem keeps_attempt {p : Program ρ σ ε α} (h : Keeps p R) : Keeps (attempt p) R := by
  intro e s
  have kept := h e s
  unfold attempt
  rcases hp : p e s with ⟨o, s'⟩
  rw [hp] at kept
  cases o <;> exact kept

theorem keeps_zoom {τ : Type} {S : τ → τ → Prop} (part : τ → σ) (put : σ → τ → τ)
    {p : Program ρ σ ε α} (h : Keeps p R) (lift : ∀ t s, R (part t) s → S t (put s t)) :
    Keeps (zoom part put p) S :=
  fun e t => lift t _ (h e (part t))

end frames

/-- Every failure of the program, in any environment and state, is one of these. -/
def FailsOnly (p : Program ρ σ ε α) (P : ε → Prop) : Prop :=
  ∀ e s x s', p e s = (.error x, s') → P x

section failures

variable {P : ε → Prop}

theorem failsOnly_pure (a : α) : FailsOnly (Pure.pure a : Program ρ σ ε α) P := by
  intro e s x s' h
  cases h

theorem failsOnly_throw {x : ε} (h : P x) : FailsOnly (throw x : Program ρ σ ε α) P := by
  intro e s y s' failed
  cases failed
  exact h

theorem failsOnly_get : FailsOnly (get : Program ρ σ ε σ) P := by
  intro e s x s' h
  cases h

theorem failsOnly_environment : FailsOnly (environment : Program ρ σ ε ρ) P := by
  intro e s x s' h
  cases h

theorem failsOnly_modify (f : σ → σ) : FailsOnly (modify f : Program ρ σ ε Unit) P := by
  intro e s x s' h
  cases h

theorem failsOnly_ofExcept {r : Except ε α} (h : ∀ x, r = .error x → P x) :
    FailsOnly (ofExcept r : Program ρ σ ε α) P := by
  cases r with
  | ok a => exact failsOnly_pure a
  | error x => exact failsOnly_throw (h x rfl)

theorem failsOnly_require (c : Prop) [Decidable c] {x : ε} (h : P x) :
    FailsOnly (require c x : Program ρ σ ε Unit) P := by
  unfold require
  by_cases holds : c
  · rw [if_pos holds]
    exact failsOnly_pure ()
  · rw [if_neg holds]
    exact failsOnly_throw h

theorem failsOnly_onlyIf (c : Prop) [Decidable c] {p : Program ρ σ ε Unit} (h : FailsOnly p P) :
    FailsOnly (onlyIf c p) P := by
  unfold onlyIf
  by_cases holds : c
  · rw [if_pos holds]
    exact h
  · rw [if_neg holds]
    exact failsOnly_pure ()

theorem failsOnly_bind {p : Program ρ σ ε α} {f : α → Program ρ σ ε β} (hp : FailsOnly p P)
    (hf : ∀ a, FailsOnly (f a) P) : FailsOnly (p >>= f) P := by
  intro e s x s' h
  rw [run_bind] at h
  rcases first : p e s with ⟨a | y | _, s₁⟩
  · rw [first] at h
    exact hf a e s₁ x s' h
  · rw [first] at h
    cases h
    exact hp e s _ _ first
  · rw [first] at h
    cases h

theorem failsOnly_effect {fault : ρ → Fault δ} {refuse : δ → ε} {body : Program ρ σ ε α}
    (refused : ∀ d, P (refuse d)) (h : FailsOnly body P) :
    FailsOnly (effect fault refuse body) P := by
  intro e s x s' failed
  unfold effect at failed
  cases faulted : fault e with
  | none =>
    rw [faulted] at failed
    exact h e s x s' failed
  | fail d =>
    rw [faulted] at failed
    cases failed
    exact refused d
  | crash =>
    rw [faulted] at failed
    cases failed

theorem failsOnly_attempt (p : Program ρ σ ε α) : FailsOnly (attempt p) P := by
  intro e s x s' h
  rw [run_attempt] at h
  rcases inspected : p e s with ⟨a | y | _, s₁⟩
  all_goals
    rw [inspected] at h
    cases h

theorem failsOnly_zoom {τ : Type} (part : τ → σ) (put : σ → τ → τ) {p : Program ρ σ ε α}
    (h : FailsOnly p P) : FailsOnly (zoom part put p) P := by
  intro e t x t' failed
  have inner : (p e (part t)).1 = .error x := congrArg Prod.fst failed
  exact h e (part t) x (p e (part t)).2 (Prod.ext inner rfl)

end failures

/-- From a state of the invariant the program stays in it, however it ends, and what it
returns has the property. -/
def Upholds (I : σ → Prop) (p : Program ρ σ ε α) (P : α → Prop) : Prop :=
  ∀ e s, I s → I (p e s).2 ∧ ∀ a, (p e s).1 = .ok a → P a

section invariants

variable {I : σ → Prop} {P : α → Prop} {Q : β → Prop}

theorem Upholds.mono {P' : α → Prop} {p : Program ρ σ ε α} (h : Upholds I p P)
    (imp : ∀ a, P a → P' a) : Upholds I p P' :=
  fun e s inside => ⟨(h e s inside).1, fun a returned => imp a ((h e s inside).2 a returned)⟩

/-- Whatever the program returns. -/
theorem Upholds.weaken {p : Program ρ σ ε α} (h : Upholds I p P) :
    Upholds I p (fun _ => True) :=
  h.mono fun _ _ => trivial

theorem upholds_pure {a : α} (h : P a) : Upholds I (Pure.pure a : Program ρ σ ε α) P := by
  intro e s inside
  constructor
  · exact inside
  · intro b returned
    cases returned
    exact h

theorem upholds_throw (x : ε) : Upholds I (throw x : Program ρ σ ε α) P := by
  intro e s inside
  constructor
  · exact inside
  · intro b returned
    cases returned

theorem upholds_get : Upholds I (get : Program ρ σ ε σ) I := by
  intro e s inside
  constructor
  · exact inside
  · intro b returned
    cases returned
    exact inside

theorem upholds_modify {f : σ → σ} (h : ∀ s, I s → I (f s)) :
    Upholds I (modify f : Program ρ σ ε Unit) (fun _ => True) :=
  fun _ s inside => ⟨h s inside, fun _ _ => trivial⟩

theorem upholds_ofExcept {r : Except ε α} (h : ∀ a, r = .ok a → P a) :
    Upholds I (ofExcept r : Program ρ σ ε α) P := by
  cases r with
  | ok a => exact upholds_pure (h a rfl)
  | error x => exact upholds_throw x

theorem upholds_require (c : Prop) [Decidable c] (x : ε) :
    Upholds I (require c x : Program ρ σ ε Unit) (fun _ => c) := by
  unfold require
  by_cases holds : c
  · rw [if_pos holds]
    exact upholds_pure holds
  · rw [if_neg holds]
    exact upholds_throw x

theorem upholds_onlyIf (c : Prop) [Decidable c] {p : Program ρ σ ε Unit}
    (h : c → Upholds I p (fun _ => True)) : Upholds I (onlyIf c p) (fun _ => True) := by
  unfold onlyIf
  by_cases holds : c
  · rw [if_pos holds]
    exact h holds
  · rw [if_neg holds]
    exact upholds_pure trivial

theorem upholds_bind {p : Program ρ σ ε α} {f : α → Program ρ σ ε β} (hp : Upholds I p P)
    (hf : ∀ a, P a → Upholds I (f a) Q) : Upholds I (p >>= f) Q := by
  intro e s inside
  have first := hp e s inside
  rw [run_bind]
  rcases ran : p e s with ⟨a | x | _, s'⟩
  · rw [ran] at first
    exact hf a (first.2 a rfl) e s' first.1
  · rw [ran] at first
    exact ⟨first.1, fun b returned => by cases returned⟩
  · rw [ran] at first
    exact ⟨first.1, fun b returned => by cases returned⟩

/-- A program is inspected: a result has its property, and a failure can be any. -/
theorem upholds_attempt {p : Program ρ σ ε α} (h : Upholds I p P) :
    Upholds I (attempt p) (fun result => ∀ a, result = .ok a → P a) := by
  intro e s inside
  have kept := h e s inside
  rw [run_attempt]
  rcases ran : p e s with ⟨a | x | _, s'⟩
  · rw [ran] at kept
    constructor
    · exact kept.1
    · intro result returned b same
      cases returned
      cases same
      exact kept.2 a rfl
  · rw [ran] at kept
    constructor
    · exact kept.1
    · intro result returned b same
      cases returned
      cases same
  · rw [ran] at kept
    exact ⟨kept.1, fun b returned => by cases returned⟩

end invariants

/-- `Upholds` in one environment. -/
def UpholdsIn (e : ρ) (I : σ → Prop) (p : Program ρ σ ε α) (P : α → Prop) : Prop :=
  ∀ s, I s → I (p e s).2 ∧ ∀ a, (p e s).1 = .ok a → P a

section environments

variable {e : ρ} {I : σ → Prop} {P : α → Prop} {Q : β → Prop}

theorem Upholds.within {p : Program ρ σ ε α} (h : Upholds I p P) : UpholdsIn e I p P :=
  fun s inside => h e s inside

theorem upholdsIn_environment :
    UpholdsIn e I (environment : Program ρ σ ε ρ) (fun e' => e' = e) := by
  intro s inside
  constructor
  · exact inside
  · intro b returned
    cases returned
    rfl

theorem upholdsIn_bind {p : Program ρ σ ε α} {f : α → Program ρ σ ε β}
    (hp : UpholdsIn e I p P) (hf : ∀ a, P a → UpholdsIn e I (f a) Q) :
    UpholdsIn e I (p >>= f) Q := by
  intro s inside
  have first := hp s inside
  rw [run_bind]
  rcases ran : p e s with ⟨a | x | _, s'⟩
  · rw [ran] at first
    exact hf a (first.2 a rfl) s' first.1
  · rw [ran] at first
    exact ⟨first.1, fun b returned => by cases returned⟩
  · rw [ran] at first
    exact ⟨first.1, fun b returned => by cases returned⟩

theorem upholdsIn_onlyIf (c : Prop) [Decidable c] {p : Program ρ σ ε Unit}
    (h : c → UpholdsIn e I p (fun _ => True)) : UpholdsIn e I (onlyIf c p) (fun _ => True) := by
  unfold onlyIf
  by_cases holds : c
  · rw [if_pos holds]
    exact h holds
  · rw [if_neg holds]
    exact (upholds_pure trivial).within

theorem upholdsIn_effect {fault : ρ → Fault δ} {refuse : δ → ε} {body : Program ρ σ ε α}
    (h : fault e = .none → UpholdsIn e I body P) :
    UpholdsIn e I (effect fault refuse body) P := by
  intro s inside
  unfold effect
  cases faulted : fault e with
  | none => exact h faulted s inside
  | fail d => exact ⟨inside, fun a returned => by cases returned⟩
  | crash => exact ⟨inside, fun a returned => by cases returned⟩

end environments

end Program

/-- Attempts that were cut off, one after the other. -/
def Interrupted (attempts : ρ → Prop) (p : Program ρ σ ε α) : σ → σ → Prop :=
  Relation.ReflTransGen fun s s' => ∃ e, attempts e ∧ p e s = (.crashed, s')

/-- An invariant that every cut-off attempt keeps holds after any number of them. -/
theorem Interrupted.invariant {attempts : ρ → Prop} {p : Program ρ σ ε α}
    {I : σ → Prop}
    (step : ∀ e s s', attempts e → I s → p e s = (.crashed, s') → I s')
    {s s' : σ} (h : Interrupted attempts p s s') (hs : I s) : I s' := by
  induction h with
  | refl => exact hs
  | tail _ cut ih =>
    obtain ⟨e, he, hcut⟩ := cut
    exact step e _ _ he ih hcut

end NazoAuthCtl.FaultProgram
