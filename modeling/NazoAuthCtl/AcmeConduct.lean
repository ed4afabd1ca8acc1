import NazoAuthCtl.AcmeFlows

/-!
# What an issuance does to the files of its binding

A command writes the journal, the private key and the request of one transaction only, and
only under its locks. It generates a key only while its journal has none, and finalizes an
order only with a request that is in place.
-/

set_option autoImplicit false
set_option linter.all false

namespace NazoAuthCtl.AcmeConduct
open CallFlow.Flow hiding pure bind call perform attempt
open AcmeFlows
open AcmeFlows.Driving (ask persistPending update underAccountLock)

/-- What the replies since the start of a command have told it: its locks, whether it has
found no journal under them, its transaction, whether the journal of the transaction has a
key, and the key and the request that are in place. -/
structure Known where
  webroot : Option String
  account : Option String
  clear : Bool
  jti : Option String
  keyed : Bool
  key : Option String
  request : Option CertificateRequest
  deriving DecidableEq, Repr

def Known.nothing : Known := ⟨none, none, false, none, false, none, none⟩

/-- Under its lock, with a transaction of its own or with none there. -/
def Known.Engaged (known : Known) : Prop :=
  known.webroot ≠ none ∧ (known.clear = true ∨ known.jti ≠ none)

instance (known : Known) : Decidable known.Engaged := inferInstanceAs (Decidable (_ ∧ _))

def Known.Owns (known : Known) (jti : String) : Prop := known.Engaged ∧ known.jti = some jti

def allow : Call → Known → Prop
  | .lockWebroot _, known => known.webroot = none
  | .loadPending, known => known.jti = none
  | .newJti, known => known.webroot ≠ none ∧ known.clear = true ∧ known.jti = none
  | .persistPending t, known => known.Owns t.jti ∧
      (t.privateKeySha256 = none → known.keyed = false) ∧
      (t.privateKeySha256 ≠ none → known.keyed = true ∨ known.request ≠ none)
  | .writeKey jti _, known => known.Owns jti ∧ known.keyed = false ∧ known.request = none
  | .writeCsr jti csr, known =>
    known.Owns jti ∧ known.keyed = false ∧ known.request = none ∧ known.key = some csr.key
  | .readCsr jti, known => known.Owns jti ∧ known.keyed = true
  | .finalizeCsr jti csr, known =>
    known.Owns jti ∧ known.keyed = true ∧ known.request = some csr
  | .archiveTransaction t, known => known.Owns t.jti
  | .removePending jti, known => known.Owns jti
  | _, _ => True

def Known.began (known : Known) (jti : String) (keyed : Bool) : Known :=
  { known with jti := some jti, keyed, key := none, request := none }

def told : (c : Call) → Except Failure (Reply c) → Known → Known
  | .lockWebroot webroot, .ok _, known => { known with webroot := some webroot }
  | .lockAccount url, .ok _, known => { known with account := some url }
  | .unlockAccount, _, known => { known with account := none }
  | .loadPending, .ok none, known => { known with clear := known.webroot.isSome }
  | .loadPending, .ok (some t), known =>
    if known.webroot = none then known.began t.jti t.privateKeySha256.isSome else known
  | .newJti, .ok jti, known => known.began jti false
  | .persistPending t, .ok _, known =>
    { known with keyed := known.keyed || t.privateKeySha256.isSome }
  | .writeKey _ key, r, known =>
    { known with key := r.toOption.map fun _ => key, request := none }
  | .writeCsr _ csr, r, known => { known with request := r.toOption.map fun _ => csr }
  | .readCsr _, .ok csr, known => { known with request := some csr }
  | _, _, known => known

def rules : CallFlow.Flow.Rules Call Reply Failure Known := ⟨allow, told⟩

variable {α β : Type} {known : Known}

@[simp] theorem obeys_call (c : Call) {Q : Reply c → Known → Prop} :
    (perform c).Obeys rules Q known ↔ allow c known ∧ ∀ a, Q a (told c (.ok a) known) :=
  obeys_perform c

@[simp] theorem obeys_tried (c : Call) {Q : Except Failure (Reply c) → Known → Prop} :
    (tried c).Obeys rules Q known ↔ allow c known ∧ ∀ r, Q r (told c r known) := Iff.rfl

/-! ## Steps on a transaction -/

/-- The journal can be written. -/
def Steady (t : AcmeTransaction) (known : Known) : Prop := allow (.persistPending t) known

/-- The command goes by the journal that it has written or loaded. -/
structure Current (t : AcmeTransaction) (known : Known) : Prop where
  owns : known.Owns t.jti
  keyed : t.privateKeySha256.isSome = known.keyed
  fresh : known.keyed = false → known.request = none

theorem Current.steady {t : AcmeTransaction} (current : Current t known) : Steady t known := by
  refine ⟨current.owns, fun none => ?_, fun some => .inl ?_⟩
  · rw [← current.keyed, none]
    rfl
  · rw [← current.keyed]
    exact Option.isSome_iff_ne_none.mpr some

/-- From `P` a step keeps to the rules and leaves a journal that can be written, with `Q` if
it returns. -/
def Conducts (P : AcmeTransaction → Known → Prop) (d : Driving α)
    (Q : α → AcmeTransaction → Known → Prop) : Prop :=
  ∀ t known, P t known → (d t).Obeys rules
    (fun r known' => Steady r.2 known' ∧ ∀ a, r.1 = .ok a → Q a r.2 known') known

/-- A step that goes by the journal before and after it. -/
abbrev Follows (d : Driving α) : Prop := Conducts Current d fun _ => Current

section steps

variable {P : AcmeTransaction → Known → Prop} {Q : α → AcmeTransaction → Known → Prop}

theorem conducts_pure {a : α} (steady : ∀ t known, P t known → Steady t known)
    (holds : ∀ t known, P t known → Q a t known) : Conducts P (pure a : Driving α) Q := by
  intro t known before
  refine ⟨steady t known before, fun b same => ?_⟩
  cases same
  exact holds t known before

theorem conducts_bind {d : Driving α} {f : α → Driving β}
    {R : β → AcmeTransaction → Known → Prop} (first : Conducts P d Q)
    (second : ∀ a, Conducts (Q a) (f a) R) : Conducts P (d >>= f) R := by
  intro t known before
  refine (obeys_bind _ _).mpr ((first t known before).imp fun r known' after => ?_)
  cases ended : r.1 with
  | ok a => exact second a r.2 known' (after.2 a ended)
  | error e =>
    refine ⟨after.1, fun b same => ?_⟩
    cases same

theorem follows_pure (a : α) : Follows (pure a : Driving α) :=
  conducts_pure (fun _ _ current => current.steady) fun _ _ current => current

theorem follows_fail (e : Failure) : Follows (Driving.fail e : Driving α) := by
  intro t known current
  refine ⟨current.steady, fun a same => ?_⟩
  cases same

theorem follows_ofExcept (x : Except Failure α) : Follows (Driving.ofExcept x) :=
  fun _ _ current => ⟨current.steady, fun _ _ => current⟩

theorem conducts_require (p : Prop) [Decidable p] (e : Failure)
    (steady : ∀ t known, P t known → Steady t known) :
    Conducts P (Driving.require p e) fun _ => P := by
  intro t known before
  unfold Driving.require
  by_cases holds : p
  · rw [if_pos holds]
    exact ⟨steady t known before, fun _ _ => before⟩
  · rw [if_neg holds]
    refine ⟨steady t known before, fun a same => ?_⟩
    cases same

theorem conducts_transaction (steady : ∀ t known, P t known → Steady t known) :
    Conducts P Driving.transaction fun t' t known => t' = t ∧ P t known := by
  intro t known before
  refine ⟨steady t known before, fun a same => ?_⟩
  cases same
  exact ⟨rfl, before⟩

/-- A call that the rules leave alone. -/
structure Plain (c : Call) : Prop where
  allowed : ∀ known, allow c known
  kept : ∀ r known, told c r known = known

theorem conducts_ask {c : Call} (plain : Plain c)
    (steady : ∀ t known, P t known → Steady t known) : Conducts P (ask c) fun _ => P := by
  intro t known before
  refine ⟨plain.allowed known, fun r => ?_⟩
  have same : rules.told c r known = known := plain.kept r known
  rw [same]
  exact ⟨steady t known before, fun _ _ => before⟩

theorem current_steady (t : AcmeTransaction) (known : Known) (current : Current t known) :
    Steady t known := current.steady

theorem follows_require (p : Prop) [Decidable p] (e : Failure) :
    Follows (Driving.require p e) := conducts_require p e current_steady

theorem follows_ask {c : Call} (plain : Plain c) : Follows (ask c) :=
  conducts_ask plain current_steady

theorem follows_bind {d : Driving α} {f : α → Driving β} (first : Follows d)
    (second : ∀ a, Follows (f a)) : Follows (d >>= f) :=
  conducts_bind first second

/-- A step that reads the transaction. -/
theorem follows_reading {f : AcmeTransaction → Driving β} (second : ∀ t, Follows (f t)) :
    Follows (Driving.transaction >>= f) :=
  conducts_bind (conducts_transaction current_steady) fun t _ known current =>
    second t _ known current.2

/-- A change of the fields that the rules do not look at. -/
theorem follows_update {f : AcmeTransaction → AcmeTransaction} (jti : ∀ t, (f t).jti = t.jti)
    (key : ∀ t, (f t).privateKeySha256 = t.privateKeySha256) : Follows (update f) := by
  intro t known current
  have after : Current (f t) known := by
    constructor
    · rw [jti]
      exact current.owns
    · rw [key]
      exact current.keyed
    · exact current.fresh
  exact ⟨after.steady, fun _ _ => after⟩

theorem told_persisted {t : AcmeTransaction} (current : Current t known)
    (r : Except Failure Unit) : told (.persistPending t) r known = known := by
  cases r with
  | error e => rfl
  | ok _ =>
    show { known with keyed := known.keyed || t.privateKeySha256.isSome } = known
    rw [current.keyed, Bool.or_self]

theorem follows_persistPending : Follows persistPending := by
  intro t known current
  refine ⟨current.steady, fun r => ?_⟩
  show Steady t (told (.persistPending t) r known) ∧ ∀ a, _ → Current t (told _ r known)
  rw [told_persisted current]
  exact ⟨current.steady, fun _ _ => current⟩

end steps

/-! ## The drive -/

theorem plain_now : Plain .now := ⟨fun _ => trivial, fun _ _ => rfl⟩
theorem plain_loadAccount : Plain .loadAccount := ⟨fun _ => trivial, fun _ _ => rfl⟩

section drive

variable (r : AcmeRules)

theorem follows_ensureTransactionFresh : Follows ensureTransactionFresh :=
  follows_bind (follows_ask plain_now) fun _ =>
    follows_reading fun _ => follows_require _ _

theorem follows_cleanupChallenge : Follows cleanupChallenge := by
  refine follows_reading fun t => ?_
  split
  · exact follows_pure ()
  · exact follows_fail _
  · exact follows_ask ⟨fun _ => trivial, fun _ _ => rfl⟩

theorem follows_bindAccountKeyDigest (digest : String) :
    Follows (bindAccountKeyDigest digest) := by
  refine follows_reading fun t => ?_
  split
  · exact follows_require _ _
  · exact follows_bind (follows_update (fun _ => rfl) fun _ => rfl) fun _ =>
      follows_persistPending

theorem follows_boundAccount : Follows boundAccount := by
  refine follows_bind (follows_ask plain_loadAccount) fun account => ?_
  cases account with
  | some digest =>
    exact follows_bind (follows_reading fun _ => follows_require _ _) fun _ =>
      follows_bind (follows_bindAccountKeyDigest digest) fun _ =>
      follows_ask ⟨fun _ => trivial, fun _ _ => rfl⟩
  | none =>
    exact follows_bind (follows_ask ⟨fun _ => trivial, fun _ _ => rfl⟩) fun digest =>
      follows_bind (follows_bindAccountKeyDigest digest) fun _ =>
      follows_ask ⟨fun _ => trivial, fun _ _ => rfl⟩

/-- The lock of the account says nothing of the journal. -/
theorem current_account {t : AcmeTransaction} (current : Current t known)
    (account : Option String) : Current t { known with account } :=
  ⟨current.owns, current.keyed, current.fresh⟩

theorem steady_account {t : AcmeTransaction} (steady : Steady t known)
    (account : Option String) : Steady t { known with account } := steady

theorem follows_underAccountLock {d : Driving α} (url : String) (follows : Follows d) :
    Follows (underAccountLock url d) := by
  intro t known current
  refine (obeys_bind _ _).mpr ((obeys_tried _).mpr ⟨trivial, fun locked => ?_⟩)
  cases locked with
  | error e =>
    refine ⟨current.steady, fun a same => ?_⟩
    cases same
  | ok _ =>
    refine (obeys_bind _ _).mpr ((follows t _ (current_account current _)).imp ?_)
    intro result known' after
    refine (obeys_bind _ _).mpr ((obeys_tried _).mpr ⟨trivial, fun unlocked => ?_⟩)
    exact ⟨steady_account after.1 none,
      fun a returned => current_account (after.2 a returned) none⟩

theorem follows_loadOrCreateAccount : Follows loadOrCreateAccount :=
  fun t => follows_underAccountLock t.authority.directoryUrl follows_boundAccount t

theorem follows_accountReady : Follows accountReady := by
  refine follows_reading fun t => ?_
  split
  · exact follows_bind (follows_update (fun _ => rfl) fun _ => rfl) fun _ =>
      follows_persistPending
  · exact follows_pure ()

theorem follows_openOrder : Follows openOrder := by
  refine follows_reading fun t => ?_
  split
  · exact follows_bind (follows_ask ⟨fun _ => trivial, fun _ _ => rfl⟩) fun _ => follows_pure _
  · exact follows_bind (follows_ask ⟨fun _ => trivial, fun _ _ => rfl⟩) fun _ =>
      follows_bind (follows_update (fun _ => rfl) fun _ => rfl) fun _ =>
      follows_bind follows_persistPending fun _ => follows_pure _

theorem follows_satisfyAuthorization : Follows (satisfyAuthorization r) := by
  refine follows_bind (follows_ask ⟨fun _ => trivial, fun _ _ => rfl⟩) fun challenge => ?_
  cases challenge with
  | none => exact follows_pure ()
  | some challenge =>
    exact follows_bind (follows_update (fun _ => rfl) fun _ => rfl) fun _ =>
      follows_bind follows_persistPending fun _ =>
      follows_bind (follows_ask ⟨fun _ => trivial, fun _ _ => rfl⟩) fun _ =>
      follows_bind (follows_update (fun _ => rfl) fun _ => rfl) fun _ =>
      follows_bind follows_persistPending fun _ =>
      follows_bind follows_ensureTransactionFresh fun _ =>
      follows_bind (follows_ask ⟨fun _ => trivial, fun _ _ => rfl⟩) fun _ =>
      follows_bind (follows_update (fun _ => rfl) fun _ => rfl) fun _ =>
      follows_persistPending

theorem follows_readyOrder : Follows (readyOrder r) := by
  refine follows_bind (follows_ask ⟨fun _ => trivial, fun _ _ => rfl⟩) fun status => ?_
  cases status with
  | pending =>
    exact follows_bind (follows_satisfyAuthorization r) fun _ =>
      follows_bind (follows_ask ⟨fun _ => trivial, fun _ _ => rfl⟩) fun _ =>
      follows_bind (follows_require _ _) fun _ => follows_pure _
  | ready => exact follows_pure _
  | processing => exact follows_pure _
  | valid => exact follows_pure _
  | invalid => exact follows_fail _

/-- The request is in place, and the journal has its key. -/
def Requested (csr : CertificateRequest) (t : AcmeTransaction) (known : Known) : Prop :=
  Current t known ∧ known.keyed = true ∧ known.request = some csr

def Keyed (t : AcmeTransaction) (known : Known) : Prop := Current t known ∧ known.keyed = true

def Unkeyed (t : AcmeTransaction) (known : Known) : Prop := Current t known ∧ known.keyed = false

/-- The key and the request are in place, and no journal binds them yet. -/
structure Placed (csr : CertificateRequest) (t : AcmeTransaction) (known : Known) : Prop where
  owns : known.Owns t.jti
  unbound : t.privateKeySha256 = none
  unkeyed : known.keyed = false
  request : known.request = some csr

/-- The key and the request are in place, and the journal in memory binds them. -/
structure Prepared (csr : CertificateRequest) (t : AcmeTransaction) (known : Known) : Prop where
  owns : known.Owns t.jti
  bound : t.privateKeySha256 ≠ none
  request : known.request = some csr

theorem Prepared.steady {csr : CertificateRequest} {t : AcmeTransaction}
    (prepared : Prepared csr t known) : Steady t known := by
  refine ⟨prepared.owns, fun none => absurd none prepared.bound, fun _ => .inr ?_⟩
  rw [prepared.request]
  exact Option.some_ne_none csr

theorem conducts_boundCsr (keySha256 csrSha256 : String) :
    Conducts Keyed (boundCsr r keySha256 csrSha256) Requested := by
  have steady : ∀ t known, Keyed t known → Steady t known := fun t known keyed => keyed.1.steady
  have reads : ∀ t, Conducts (fun t' known => t = t' ∧ Keyed t' known) (ask (.readCsr t.jti))
      Requested := by
    rintro t _ known ⟨rfl, keyed⟩
    refine ⟨⟨keyed.1.owns, keyed.2⟩, fun csr => ?_⟩
    cases csr with
    | error e => exact ⟨keyed.1.steady, fun a same => by cases same⟩
    | ok csr =>
      have current : Current t { known with request := some csr } :=
        ⟨keyed.1.owns, keyed.1.keyed, fun no => Bool.noConfusion (keyed.2.symm.trans no)⟩
      refine ⟨current.steady, fun a same => ?_⟩
      cases same
      exact ⟨current, keyed.2, rfl⟩
  refine conducts_bind (conducts_transaction steady) fun t => ?_
  refine conducts_bind (Q := fun _ t' known => t = t' ∧ Keyed t' known)
    (conducts_ask ⟨fun _ => trivial, fun _ _ => rfl⟩ fun t known both => steady t known both.2)
    fun key => ?_
  refine conducts_bind (reads t) fun csr => ?_
  refine conducts_bind (conducts_require _ _ fun t known requested => requested.1.steady)
    fun _ => ?_
  exact conducts_pure (fun t known requested => requested.1.steady) fun t known => id

theorem conducts_writeKey (before : AcmeTransaction) (csr : CertificateRequest) :
    Conducts (fun t known => before = t ∧ Unkeyed t known) (ask (.writeKey before.jti csr.key))
      fun _ t known => before = t ∧ Unkeyed t known ∧ known.key = some csr.key := by
  rintro t known ⟨rfl, unkeyed⟩
  refine ⟨⟨unkeyed.1.owns, unkeyed.2, unkeyed.1.fresh unkeyed.2⟩, fun written => ?_⟩
  have current : Current before (told (.writeKey before.jti csr.key) written known) :=
    ⟨unkeyed.1.owns, unkeyed.1.keyed, fun _ => rfl⟩
  refine ⟨current.steady, fun a same => ?_⟩
  have passed : written = .ok a := same
  rw [passed] at current ⊢
  exact ⟨rfl, ⟨current, unkeyed.2⟩, rfl⟩

theorem conducts_writeCsr (before : AcmeTransaction) (csr : CertificateRequest) :
    Conducts (fun t known => before = t ∧ Unkeyed t known ∧ known.key = some csr.key)
      (ask (.writeCsr before.jti csr)) fun _ => Placed csr := by
  rintro t known ⟨rfl, unkeyed, key⟩
  refine ⟨⟨unkeyed.1.owns, unkeyed.2, unkeyed.1.fresh unkeyed.2, key⟩, fun written => ?_⟩
  have unbound : before.privateKeySha256 = none := by
    rw [← Option.isNone_iff_eq_none, ← Option.not_isSome, unkeyed.1.keyed, unkeyed.2]
    rfl
  have steady : Steady before (told (.writeCsr before.jti csr) written known) :=
    ⟨unkeyed.1.owns, fun _ => unkeyed.2, fun bound => absurd unbound bound⟩
  refine ⟨steady, fun a same => ?_⟩
  have passed : written = .ok a := same
  rw [passed]
  exact ⟨unkeyed.1.owns, unbound, unkeyed.2, rfl⟩

theorem conducts_persistCsr (csr : CertificateRequest) :
    Conducts (Prepared csr) persistPending fun _ => Requested csr := by
  intro t known prepared
  refine ⟨prepared.steady, fun written => ?_⟩
  cases written with
  | error e => exact ⟨prepared.steady, fun a same => by cases same⟩
  | ok _ =>
    have bound := Option.isSome_iff_ne_none.mpr prepared.bound
    have keyed : (known.keyed || t.privateKeySha256.isSome) = true := by
      rw [bound, Bool.or_true]
    have current : Current t (told (.persistPending t) (.ok ()) known) :=
      ⟨prepared.owns, bound.trans keyed.symm, fun no => Bool.noConfusion (keyed.symm.trans no)⟩
    exact ⟨current.steady, fun _ _ => ⟨current, keyed, prepared.request⟩⟩

theorem conducts_createCsr : Conducts Unkeyed (createCsr r) Requested := by
  have steady : ∀ t known, Unkeyed t known → Steady t known :=
    fun t known unkeyed => unkeyed.1.steady
  have binds : ∀ csr : CertificateRequest,
      Conducts (Placed csr)
        (update fun t =>
          { t with
            privateKeySha256 := some (r.sha256 csr.key)
            csrSha256 := some (r.sha256 csr.der)
            phase := .csrReady })
        fun _ => Prepared csr := by
    intro csr t known placed
    have prepared : Prepared csr
        { t with
          privateKeySha256 := some (r.sha256 csr.key)
          csrSha256 := some (r.sha256 csr.der)
          phase := .csrReady } known :=
      ⟨placed.owns, Option.some_ne_none _, placed.request⟩
    exact ⟨prepared.steady, fun _ _ => prepared⟩
  refine conducts_bind (conducts_transaction steady) fun t => ?_
  refine conducts_bind (Q := fun _ t' known => t = t' ∧ Unkeyed t' known)
    (conducts_ask ⟨fun _ => trivial, fun _ _ => rfl⟩ fun t known both => steady t known both.2)
    fun csr => ?_
  refine conducts_bind (conducts_writeKey t csr) fun _ => ?_
  refine conducts_bind (conducts_writeCsr t csr) fun _ => ?_
  refine conducts_bind (binds csr) fun _ => ?_
  refine conducts_bind (conducts_persistCsr csr) fun _ => ?_
  exact conducts_pure (fun t known requested => requested.1.steady) fun t known => id

theorem conducts_loadOrCreateCsr : Conducts Current (loadOrCreateCsr r) Requested := by
  refine conducts_bind (conducts_transaction current_steady) fun t => ?_
  rintro _ known ⟨rfl, current⟩
  cases key : t.privateKeySha256 with
  | none =>
    cases request : t.csrSha256 with
    | none =>
      apply conducts_createCsr r t known ⟨current, _⟩
      rw [← current.keyed, key]
      rfl
    | some csrSha256 => exact ⟨current.steady, fun a same => by cases same⟩
  | some keySha256 =>
    cases request : t.csrSha256 with
    | none => exact ⟨current.steady, fun a same => by cases same⟩
    | some csrSha256 =>
      apply conducts_boundCsr r keySha256 csrSha256 t known ⟨current, _⟩
      rw [← current.keyed, key]
      rfl

theorem conducts_finalizeOrder (status : OrderStatus) (csr : CertificateRequest) :
    Conducts (Requested csr) (finalizeOrder status csr) fun _ => Current := by
  unfold finalizeOrder
  by_cases ready : status = .ready
  · rw [if_pos ready]
    have sends : ∀ t, Conducts (fun t' known => t = t' ∧ Requested csr t' known)
        (ask (.finalizeCsr t.jti csr)) fun _ => Current := by
      rintro t _ known ⟨rfl, requested⟩
      exact ⟨⟨requested.1.owns, requested.2⟩, fun sent => ⟨requested.1.steady,
        fun _ _ => requested.1⟩⟩
    refine conducts_bind (conducts_transaction fun t known requested => requested.1.steady)
      fun t => ?_
    refine conducts_bind (sends t) fun _ => ?_
    exact follows_bind (follows_update (fun _ => rfl) fun _ => rfl) fun _ =>
      follows_persistPending
  · rw [if_neg ready]
    exact conducts_pure (fun t known requested => requested.1.steady)
      fun t known requested => requested.1

theorem follows_buildReceipt (accountId orderUrl certificateSha256 : String)
    (material : Material) :
    Follows (buildReceipt accountId orderUrl certificateSha256 material) := by
  have reads : ∀ text missing, Follows (requireText text missing) := by
    intro text missing
    cases text with
    | none => exact follows_fail missing
    | some text => exact follows_pure text
  exact follows_reading fun t =>
    follows_bind (reads _ _) fun _ =>
    follows_bind (reads _ _) fun _ =>
    follows_bind (follows_ask plain_now) fun _ => follows_pure _

theorem follows_persistReceipt (receipt : AcmeReceipt) : Follows (persistReceipt receipt) := by
  refine follows_bind (follows_ask ⟨fun _ => trivial, fun _ _ => rfl⟩) fun existing => ?_
  cases existing with
  | none =>
    exact follows_bind (follows_ask ⟨fun _ => trivial, fun _ _ => rfl⟩) fun _ =>
      follows_ask ⟨fun _ => trivial, fun _ _ => rfl⟩
  | some archived =>
    exact follows_bind (follows_require _ _) fun _ =>
      follows_ask ⟨fun _ => trivial, fun _ _ => rfl⟩

theorem follows_archiveTransaction : Follows archiveTransaction := by
  have archives : ∀ before : AcmeTransaction,
      Conducts (fun t known => before = t ∧ Current t known) (ask (.archiveTransaction before))
        fun _ t known => before = t ∧ Current t known := by
    rintro before _ known ⟨rfl, current⟩
    exact ⟨current.owns, fun written => ⟨current.steady, fun _ _ => ⟨rfl, current⟩⟩⟩
  have removes : ∀ before : AcmeTransaction,
      Conducts (fun t known => before = t ∧ Current t known) (ask (.removePending before.jti))
        fun _ => Current := by
    rintro before _ known ⟨rfl, current⟩
    exact ⟨current.owns, fun written => ⟨current.steady, fun _ _ => current⟩⟩
  refine conducts_bind (Q := fun before t known => before = t ∧ Current t known) ?_ fun before =>
    conducts_bind (archives before) fun _ => removes before
  intro t known current
  refine ⟨current.steady, fun a same => ?_⟩
  cases same
  exact ⟨rfl, current⟩

theorem follows_commitIssuedMaterial (accountId orderUrl certificate : String) :
    Follows (commitIssuedMaterial r accountId orderUrl certificate) :=
  follows_reading fun _ =>
    follows_bind (follows_ask ⟨fun _ => trivial, fun _ _ => rfl⟩) fun _ =>
    follows_bind (follows_update (fun _ => rfl) fun _ => rfl) fun _ =>
    follows_bind follows_persistPending fun _ =>
    follows_bind (follows_ask ⟨fun _ => trivial, fun _ _ => rfl⟩) fun _ =>
    follows_bind (follows_buildReceipt _ _ _ _) fun receipt =>
    follows_bind (follows_ask ⟨fun _ => trivial, fun _ _ => rfl⟩) fun _ =>
    follows_bind (follows_ofExcept _) fun _ =>
    follows_bind (follows_persistReceipt receipt) fun _ =>
    follows_bind (follows_update (fun _ => rfl) fun _ => rfl) fun _ =>
    follows_bind follows_persistPending fun _ =>
    follows_bind follows_cleanupChallenge fun _ =>
    follows_bind follows_archiveTransaction fun _ => follows_pure _

theorem follows_driveAsync : Follows (driveAsync r) :=
  follows_bind follows_loadOrCreateAccount fun _ =>
    follows_bind follows_accountReady fun _ =>
    follows_bind follows_ensureTransactionFresh fun _ =>
    follows_bind follows_openOrder fun _ =>
    follows_bind (follows_ask ⟨fun _ => trivial, fun _ _ => rfl⟩) fun _ =>
    follows_bind follows_ensureTransactionFresh fun _ =>
    follows_bind (follows_readyOrder r) fun status =>
    follows_bind follows_cleanupChallenge fun _ =>
    follows_bind follows_ensureTransactionFresh fun _ =>
    conducts_bind (conducts_loadOrCreateCsr r) fun csr =>
    conducts_bind (conducts_finalizeOrder status csr) fun _ =>
    follows_bind (follows_ask ⟨fun _ => trivial, fun _ _ => rfl⟩) fun _ =>
    follows_bind follows_ensureTransactionFresh fun _ =>
    follows_commitIssuedMaterial r _ _ _

end drive

/-! ## The commands -/

section commands

variable (r : AcmeRules)

/-- The removal of a challenge tells nothing of the journal. -/
theorem cleanupChallenge_obeys (t : AcmeTransaction) :
    (cleanupChallenge t).Obeys rules (fun _ known' => known' = known) known := by
  refine (obeys_bind _ _).mpr ((obeys_pure _).mpr ?_)
  dsimp only
  cases t.challengePath with
  | none => exact rfl
  | some path =>
    cases t.challengeSha256 with
    | none => trivial
    | some sha256 => exact ⟨trivial, fun _ => rfl⟩

theorem leavePending_obeys (error : Failure) {t : AcmeTransaction} (steady : Steady t known) :
    (leavePending error t).Obeys rules (fun _ _ => True) known := by
  refine (obeys_bind _ _).mpr ((obeys_call _).mpr ⟨steady, fun _ => ?_⟩)
  exact (obeys_bind _ _).mpr ((cleanupChallenge_obeys t).imp fun _ _ _ => trivial)

theorem driveTransaction_obeys {t : AcmeTransaction} (current : Current t known) :
    (driveTransaction r t).Obeys rules (fun _ _ => True) known := by
  refine (obeys_bind _ _).mpr ((obeys_call _).mpr ⟨trivial, fun now => ?_⟩)
  refine (obeys_bind _ _).mpr ((obeys_require _).mpr fun _ => ?_)
  refine (obeys_bind _ _).mpr ((follows_driveAsync r t known current).imp ?_)
  intro result known' after
  cases ended : result.1 with
  | ok receipt => trivial
  | error error => exact leavePending_obeys error after.1

theorem issue_obeys (input : AcmeInput) :
    (issue r input).Obeys rules (fun _ _ => True) Known.nothing := by
  refine (obeys_bind _ _).mpr ((obeys_call _).mpr ⟨trivial, fun _ => ?_⟩)
  refine (obeys_bind _ _).mpr ((obeys_call _).mpr ⟨rfl, fun _ => ?_⟩)
  refine (obeys_bind _ _).mpr ((obeys_call _).mpr ⟨rfl, fun pending => ?_⟩)
  refine (obeys_bind _ _).mpr ((obeys_require _).mpr fun missing => ?_)
  subst missing
  refine (obeys_bind _ _).mpr ((obeys_call _).mpr ⟨trivial, fun current => ?_⟩)
  refine (obeys_bind _ _).mpr ((obeys_call _).mpr
    ⟨⟨Option.some_ne_none _, rfl, rfl⟩, fun jti => ?_⟩)
  refine (obeys_bind _ _).mpr ((obeys_call _).mpr ⟨trivial, fun now => ?_⟩)
  refine (obeys_bind _ _).mpr ((obeys_call _).mpr ⟨trivial, fun _ => ?_⟩)
  have engaged : Known.Engaged
      ⟨some input.webroot, none, true, some jti, false, none, none⟩ :=
    ⟨Option.some_ne_none _, .inl rfl⟩
  refine (obeys_bind _ _).mpr ((obeys_call _).mpr
    ⟨⟨⟨engaged, rfl⟩, fun _ => rfl, fun bound => absurd rfl bound⟩, fun _ => ?_⟩)
  exact driveTransaction_obeys r ⟨⟨engaged, rfl⟩, rfl, fun _ => rfl⟩

theorem retire_obeys {t : AcmeTransaction} (receipt : AcmeReceipt) (owns : known.Owns t.jti) :
    (retire t receipt).Obeys rules (fun _ _ => True) known := by
  refine (obeys_bind _ _).mpr ((cleanupChallenge_obeys t).imp ?_)
  rintro cleaned known' rfl
  refine (obeys_bind _ _).mpr ((obeys_ofExcept _).mpr fun _ _ => ?_)
  refine (obeys_bind _ _).mpr ((obeys_call _).mpr ⟨owns, fun _ => ?_⟩)
  refine (obeys_bind _ _).mpr ((obeys_call _).mpr ⟨owns, fun _ => ?_⟩)
  trivial

theorem abortTransaction_obeys {t : AcmeTransaction} (current : Current t known) :
    (abortTransaction t).Obeys rules (fun _ _ => True) known := by
  refine (obeys_bind _ _).mpr ((cleanupChallenge_obeys t).imp ?_)
  rintro cleaned known' rfl
  refine (obeys_bind _ _).mpr ((obeys_ofExcept _).mpr fun _ _ => ?_)
  refine (obeys_bind _ _).mpr ((obeys_call _).mpr ⟨current.steady, fun _ => ?_⟩)
  refine (obeys_bind _ _).mpr ((obeys_call _).mpr ⟨trivial, fun _ => ?_⟩)
  refine (obeys_bind _ _).mpr ((obeys_call _).mpr ⟨current.owns, fun _ => ?_⟩)
  exact (obeys_call _).mpr ⟨current.owns, fun _ => trivial⟩

theorem settle_obeys {t : AcmeTransaction} (receipt : Option AcmeReceipt)
    (current : Current t known) :
    (settle r t receipt).Obeys rules (fun _ _ => True) known := by
  have resumes : (resume r t).Obeys rules (fun _ _ => True) known := by
    refine (obeys_bind _ _).mpr ((obeys_call _).mpr ⟨trivial, fun now => ?_⟩)
    split
    · exact (obeys_bind _ _).mpr ((abortTransaction_obeys current).imp fun _ _ _ => trivial)
    · exact driveTransaction_obeys r current
  unfold settle
  cases receipt.filter (·.jti = t.jti) with
  | some committed =>
    refine (obeys_bind _ _).mpr ((obeys_ofExcept _).mpr fun _ _ => ?_)
    refine (obeys_bind _ _).mpr ((obeys_call _).mpr ⟨trivial, fun _ => ?_⟩)
    exact retire_obeys committed current.owns
  | none =>
    refine (obeys_bind _ _).mpr ((obeys_ofExcept _).mpr fun _ _ => ?_)
    refine (obeys_bind _ _).mpr ((obeys_call _).mpr ⟨trivial, fun archived => ?_⟩)
    cases archived with
    | some archived =>
      refine (obeys_bind _ _).mpr ((obeys_ofExcept _).mpr fun _ _ => ?_)
      refine (obeys_bind _ _).mpr ((obeys_call _).mpr ⟨trivial, fun _ => ?_⟩)
      refine (obeys_bind _ _).mpr ((obeys_call _).mpr ⟨trivial, fun _ => ?_⟩)
      exact retire_obeys archived current.owns
    | none => exact resumes

theorem recover_obeys (authority : AcmeAuthority) :
    (recover r authority).Obeys rules (fun _ _ => True) Known.nothing := by
  refine (obeys_bind _ _).mpr ((obeys_call _).mpr ⟨rfl, fun pending => ?_⟩)
  cases pending with
  | none => trivial
  | some t =>
    refine (obeys_bind _ _).mpr ?_
    refine (obeys_bind _ _).mpr ((obeys_call _).mpr ⟨trivial, fun _ => ?_⟩)
    refine (obeys_bind _ _).mpr ((obeys_ofExcept _).mpr fun _ _ => ?_)
    refine (obeys_bind _ _).mpr ((obeys_call _).mpr ⟨trivial, fun input => ?_⟩)
    refine (obeys_bind _ _).mpr ((obeys_ofExcept _).mpr fun _ _ => ?_)
    refine (obeys_bind _ _).mpr ((obeys_call _).mpr ⟨rfl, fun _ => ?_⟩)
    refine (obeys_bind _ _).mpr ((obeys_call _).mpr ⟨trivial, fun receipt => ?_⟩)
    exact settle_obeys r receipt
      ⟨⟨⟨Option.some_ne_none _, .inr (Option.some_ne_none _)⟩, rfl⟩, rfl, fun _ => rfl⟩

end commands

end NazoAuthCtl.AcmeConduct
