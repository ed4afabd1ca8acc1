import Mathlib.Logic.Function.Basic
import NazoAuthCtl.AcmeConduct

/-!
# Issuances of one binding taken in turn

Any number of processes issue and recover for one binding, one call at a time, and a process
may be lost after any call. The lock of a challenge directory is the only exclusive one, and
two configurations of the binding may name different directories. All transactions share one
journal name; each has a private key of its own.
-/

set_option autoImplicit false
set_option linter.all false

namespace NazoAuthCtl.AcmeConcurrency
open AcmeFlows AcmeConduct

/-! ## The files of a binding -/

/-- `used` are the transaction ids drawn so far, `finalized` the requests with which an order
was finalized, `settled` the transactions whose receipt was written or that were archived. -/
structure World where
  pending : Option AcmeTransaction
  current : Option AcmeReceipt
  archive : ℕ → Option AcmeReceipt
  snapshots : String → Option AcmeInput
  keys : String → Option String
  requests : String → Option CertificateRequest
  used : List String
  finalized : List (String × CertificateRequest)
  settled : List String

/-- A write is there when it returns and may be there when it fails. -/
def Written (r : Except Failure Unit) (before after world : World) : Prop :=
  world = after ∨ (∃ e, r = .error e) ∧ world = before

/-- What a call may reply, and the files after it. -/
def Answers (world : World) : (c : Call) → Except Failure (Reply c) → World → Prop
  | .loadPending, r, after => after = world ∧ ∀ a, r = .ok a → a = world.pending
  | .loadReceipt, r, after => after = world ∧ ∀ a, r = .ok a → a = world.current
  | .loadArchivedReceipt revision, r, after =>
    after = world ∧ ∀ a, r = .ok a → a = world.archive revision
  | .loadSnapshots jti, r, after =>
    after = world ∧ ∀ a, r = .ok a → world.snapshots jti = some a
  | .readKey jti, r, after => after = world ∧ ∀ a, r = .ok a → world.keys jti = some a
  | .readCsr jti, r, after => after = world ∧ ∀ a, r = .ok a → world.requests jti = some a
  | .newJti, r, after =>
    (∃ e, r = .error e ∧ after = world) ∨
      ∃ jti, jti ∉ world.used ∧ r = .ok jti ∧ after = { world with used := jti :: world.used }
  | .writeSnapshots jti input, r, after =>
    Written r world
      { world with snapshots := Function.update world.snapshots jti (some input) } after
  | .persistPending t, r, after => Written r world { world with pending := some t } after
  | .removePending _, r, after => Written r world { world with pending := none } after
  | .writeKey jti key, r, after =>
    Written r world { world with keys := Function.update world.keys jti (some key) } after
  | .writeCsr jti csr, r, after =>
    Written r world { world with requests := Function.update world.requests jti (some csr) } after
  | .finalizeCsr jti csr, r, after =>
    Written r world { world with finalized := (jti, csr) :: world.finalized } after
  | .archiveReceipt receipt, r, after =>
    Written r world
      { world with archive := Function.update world.archive receipt.revision (some receipt) } after
  | .writeReceipt receipt, r, after =>
    Written r world
      { world with current := some receipt, settled := receipt.jti :: world.settled } after
  | .archiveTransaction t, r, after =>
    Written r world { world with settled := t.jti :: world.settled } after
  | _, _, after => after = world

/-! ## Processes -/

inductive Command where
  | issue (input : AcmeInput)
  | recover (authority : AcmeAuthority)

/-- A process with what it has been told, and the journal that it last loaded or wrote. -/
structure Task where
  flow : Flow AcmeReceipt
  known : Known
  seen : Option AcmeTransaction

structure Config where
  world : World
  tasks : ℕ → Option Task

def seenAfter (world : World) (seen : Option AcmeTransaction) :
    (c : Call) → Except Failure (Reply c) → Option AcmeTransaction
  | .loadPending, .ok pending => pending
  | .persistPending t, _ => if world.pending = some t then some t else seen
  | .removePending _, _ => if world.pending = none then none else seen
  | _, _ => seen

def Task.called (task : Task) (c : Call) (next : Except Failure (Reply c) → Flow AcmeReceipt)
    (r : Except Failure (Reply c)) (world : World) : Task where
  flow := next r
  known := told c r task.known
  seen := seenAfter world task.seen c r

def Config.put (config : Config) (i : ℕ) (task : Option Task) : Config :=
  { config with tasks := Function.update config.tasks i task }

/-- An exclusive lock that another process has. -/
def Taken (config : Config) (i : ℕ) : Call → Prop
  | .lockWebroot webroot => ∃ j other, j ≠ i ∧ config.tasks j = some other ∧
      other.known.webroot = some webroot
  | .lockAccount url => ∃ j other, j ≠ i ∧ config.tasks j = some other ∧
      other.known.account = some url
  | _ => False

section runs

variable (r : AcmeRules)

def Command.flow : Command → Flow AcmeReceipt
  | .issue input => AcmeFlows.issue r input
  | .recover authority => AcmeFlows.recover r authority

/-- A condition on the calls of a run. -/
abbrev Condition : Type :=
  Config → ℕ → (c : Call) → Except Failure (Reply c) → Prop

/-- A process that ends, done or lost, gives its locks back. -/
inductive Step (condition : Condition) : Config → Config → Prop where
  | start {config : Config} (i : ℕ) (command : Command) (free : config.tasks i = none) :
      Step condition config (config.put i (some ⟨command.flow r, Known.nothing, none⟩))
  | call {config : Config} {i : ℕ} {task : Task} {c : Call}
      {next : Except Failure (Reply c) → Flow AcmeReceipt} {reply : Except Failure (Reply c)}
      {world : World} (runs : config.tasks i = some task) (calls : task.flow = .call c next)
      (answers : Answers config.world c reply world)
      (unlocked : ∀ a, reply = .ok a → ¬ Taken config i c) (met : condition config i c reply) :
      Step condition config
        (Config.put { config with world } i (some (task.called c next reply world)))
  | stop {config : Config} (i : ℕ) : Step condition config (config.put i none)

structure Initial (config : Config) : Prop where
  pending : config.world.pending = none
  finalized : config.world.finalized = []
  tasks : ∀ i, config.tasks i = none

inductive Run (condition : Condition) : Config → Prop where
  | start {config : Config} (initial : Initial config) : Run condition config
  | step {config config' : Config} (before : Run condition config)
      (step : Step r condition config config') : Run condition config'

end runs

/-- Every run. -/
def anyhow : Condition := fun _ _ _ _ => True

/-! ## What should hold in every state -/

/-- A journal is written over only by the transaction that it belongs to, by a process that
has loaded or written it as it stands, and removed only by that transaction. -/
def Spares (world : World) (seen : Option AcmeTransaction) : Call → Prop
  | .persistPending t => ∀ before ∈ world.pending, before.jti = t.jti ∧ seen = some before
  | .removePending jti => ∀ before ∈ world.pending, before.jti = jti
  | _ => True

/-- The key of a finalized request stays until its transaction is settled. -/
def KeysKept (world : World) : Prop :=
  ∀ jti csr, (jti, csr) ∈ world.finalized → jti ∉ world.settled →
    world.keys jti = some csr.key

structure Sound (config : Config) : Prop where
  spares : ∀ (i : ℕ) (task : Task) (c : Call)
    (next : Except Failure (Reply c) → Flow AcmeReceipt),
    config.tasks i = some task → task.flow = .call c next →
    Spares config.world task.seen c
  keys : KeysKept config.world

/-! ## Processes that do not meet -/

/-- When an issue passes its check for a journal, or a recovery takes the lock of its challenge
directory, no other process is between that point and its end, and the journal that was loaded
before still stands. -/
def Alone : Condition := fun config i c reply =>
  ∀ task, config.tasks i = some task → ¬ task.known.Engaged →
    (told c reply task.known).Engaged →
    (∀ j other, j ≠ i → config.tasks j = some other → ¬ other.known.Engaged) ∧
    ∀ t ∈ task.seen, config.world.pending = some t

/-! ## What the processes rely on -/

/-- Two states of the files that differ at most in what no transaction goes by. -/
structure Same (world after : World) : Prop where
  pending : after.pending = world.pending
  keys : after.keys = world.keys
  requests : after.requests = world.requests
  used : after.used = world.used
  finalized : after.finalized = world.finalized

theorem Same.refl (world : World) : Same world world := ⟨rfl, rfl, rfl, rfl, rfl⟩

/-- The request of a transaction is in place with its key. -/
def InPlace (world : World) (jti : String) (csr : CertificateRequest) : Prop :=
  world.requests jti = some csr ∧ world.keys jti = some csr.key

structure Filed (world : World) : Prop where
  unsent : ∀ t ∈ world.pending, t.privateKeySha256 = none →
    ∀ csr, (t.jti, csr) ∉ world.finalized
  placed : ∀ t ∈ world.pending, t.privateKeySha256 ≠ none → ∃ csr, InPlace world t.jti csr
  kept : ∀ jti csr, (jti, csr) ∈ world.finalized → world.keys jti = some csr.key
  used : ∀ t ∈ world.pending, t.jti ∈ world.used
  sent : ∀ jti csr, (jti, csr) ∈ world.finalized → jti ∈ world.used

/-- What a process under its lock can rely on. -/
structure Relies (world : World) (task : Task) : Prop where
  pending : world.pending = task.seen
  own : ∀ t ∈ task.seen, task.known.jti = some t.jti
  used : ∀ jti ∈ task.known.jti, jti ∈ world.used
  unsent : task.known.keyed = false → ∀ jti ∈ task.known.jti, ∀ csr,
    (jti, csr) ∉ world.finalized
  placed : task.known.keyed = true → ∀ jti ∈ task.known.jti, ∃ csr, InPlace world jti csr
  keyed : task.known.keyed = true → ∀ t ∈ task.seen, t.privateKeySha256 ≠ none
  unkeyed : task.known.keyed = false → task.known.request = none →
    ∀ t ∈ task.seen, t.privateKeySha256 = none
  key : ∀ key ∈ task.known.key, ∀ jti ∈ task.known.jti, world.keys jti = some key
  request : ∀ csr ∈ task.known.request, ∀ jti ∈ task.known.jti, InPlace world jti csr

/-- What a process has before its lock: at most a journal that it has loaded. -/
structure Waits (task : Task) : Prop where
  clear : task.known.clear = false
  known : task.known.jti = task.seen.map (·.jti)
  keyed : ∀ t ∈ task.seen, task.known.keyed = t.privateKeySha256.isSome
  key : ∀ t ∈ task.seen, task.known.key = none
  request : ∀ t ∈ task.seen, task.known.request = none

structure Invariant (config : Config) : Prop where
  filed : Filed config.world
  obeys : ∀ i task, config.tasks i = some task →
    task.flow.Obeys rules (fun _ _ => True) task.known
  waits : ∀ i task, config.tasks i = some task → task.known.webroot = none → Waits task
  relies : ∀ i task, config.tasks i = some task → task.known.Engaged →
    Relies config.world task
  apart : ∀ i j task other, config.tasks i = some task → config.tasks j = some other →
    task.known.Engaged → other.known.Engaged → i = j

theorem Filed.same {world after : World} (filed : Filed world) (same : Same world after) :
    Filed after := by
  constructor
  · rw [same.pending, same.finalized]
    exact filed.unsent
  · unfold InPlace
    rw [same.pending, same.requests, same.keys]
    exact filed.placed
  · rw [same.finalized, same.keys]
    exact filed.kept
  · rw [same.pending, same.used]
    exact filed.used
  · rw [same.finalized, same.used]
    exact filed.sent

theorem Relies.same {world after : World} {task : Task} (relies : Relies world task)
    (same : Same world after) : Relies after task := by
  constructor
  · rw [same.pending]
    exact relies.pending
  · exact relies.own
  · rw [same.used]
    exact relies.used
  · rw [same.finalized]
    exact relies.unsent
  · unfold InPlace
    rw [same.requests, same.keys]
    exact relies.placed
  · exact relies.keyed
  · exact relies.unkeyed
  · rw [same.keys]
    exact relies.key
  · unfold InPlace
    rw [same.requests, same.keys]
    exact relies.request

/-! ## One call -/

section call

variable {world after : World} {task : Task} {c : Call} {reply : Except Failure (Reply c)}

theorem same_of_written {r : Except Failure Unit} {written : World}
    (answers : Written r world written after) (same : Same world written) : Same world after := by
  rcases answers with rfl | ⟨-, rfl⟩
  · exact same
  · exact Same.refl after

/-- A lock, once taken, is there until the process ends. -/
theorem told_webroot {known : Known} (locked : known.webroot ≠ none) :
    (told c reply known).webroot ≠ none := by
  cases c with
  | lockWebroot webroot =>
    cases reply with
    | ok _ => exact Option.some_ne_none webroot
    | error e => exact locked
  | loadPending =>
    cases reply with
    | ok pending =>
      cases pending with
      | none => exact locked
      | some t =>
        show (if known.webroot = none then known.began _ _ else known).webroot ≠ none
        rw [if_neg locked]
        exact locked
    | error e => exact locked
  | lockAccount url =>
    cases reply with
    | ok _ => exact locked
    | error e => exact locked
  | newJti =>
    cases reply with
    | ok jti => exact locked
    | error e => exact locked
  | persistPending t =>
    cases reply with
    | ok _ => exact locked
    | error e => exact locked
  | readCsr jti =>
    cases reply with
    | ok csr => exact locked
    | error e => exact locked
  | _ => exact locked

/-- A process that is not under its lock changes nothing that the others go by. -/
theorem same_of_idle {known : Known} (idle : ¬ known.Engaged) (allowed : allow c known)
    (answers : Answers world c reply after) : Same world after := by
  cases c with
  | newJti => exact absurd ⟨allowed.1, .inl allowed.2.1⟩ idle
  | persistPending t => exact absurd allowed.1.1 idle
  | removePending jti => exact absurd allowed.1 idle
  | writeKey jti key => exact absurd allowed.1.1 idle
  | writeCsr jti csr => exact absurd allowed.1.1 idle
  | finalizeCsr jti csr => exact absurd allowed.1.1 idle
  | readCsr jti => exact absurd allowed.1.1 idle
  | archiveTransaction t => exact absurd allowed.1 idle
  | writeSnapshots jti input => exact same_of_written answers ⟨rfl, rfl, rfl, rfl, rfl⟩
  | archiveReceipt receipt => exact same_of_written answers ⟨rfl, rfl, rfl, rfl, rfl⟩
  | writeReceipt receipt => exact same_of_written answers ⟨rfl, rfl, rfl, rfl, rfl⟩
  | loadPending => exact answers.1 ▸ Same.refl world
  | loadReceipt => exact answers.1 ▸ Same.refl world
  | loadArchivedReceipt revision => exact answers.1 ▸ Same.refl world
  | loadSnapshots jti => exact answers.1 ▸ Same.refl world
  | readKey jti => exact answers.1 ▸ Same.refl world
  | _ => exact (show after = world from answers) ▸ Same.refl world

variable {next : Except Failure (Reply c) → Flow AcmeReceipt}

theorem waits_called (waits : task.known.webroot = none → Waits task)
    (allowed : allow c task.known) (unlocked : (told c reply task.known).webroot = none) :
    Waits (task.called c next reply after) := by
  have open' : task.known.webroot = none := by
    by_contra locked
    exact told_webroot locked unlocked
  have idle : ¬ task.known.Engaged := fun engaged => engaged.1 open'
  have before := waits open'
  cases c with
  | lockWebroot webroot =>
    cases reply with
    | ok _ => exact absurd unlocked (Option.some_ne_none webroot)
    | error e => exact ⟨before.clear, before.known, before.keyed, before.key, before.request⟩
  | loadPending =>
    cases reply with
    | error e => exact ⟨before.clear, before.known, before.keyed, before.key, before.request⟩
    | ok pending =>
      cases pending with
      | none =>
        constructor
        · show task.known.webroot.isSome = false
          rw [open']
          rfl
        · exact allowed
        all_goals
          intro t member
          cases member
      | some t =>
        have began : (task.called .loadPending next (.ok (some t)) after).known =
            task.known.began t.jti t.privateKeySha256.isSome := if_pos open'
        constructor
        · rw [began]
          exact before.clear
        · rw [began]
          rfl
        all_goals
          intro t' member
          cases member
          rw [began]
          rfl
  | newJti => exact absurd open' allowed.1
  | persistPending t => exact absurd allowed.1.1 idle
  | removePending jti => exact absurd allowed.1 idle
  | writeKey jti key => exact absurd allowed.1.1 idle
  | writeCsr jti csr => exact absurd allowed.1.1 idle
  | readCsr jti => exact absurd allowed.1.1 idle
  | lockAccount url =>
    cases reply with
    | ok _ => exact ⟨before.clear, before.known, before.keyed, before.key, before.request⟩
    | error e => exact ⟨before.clear, before.known, before.keyed, before.key, before.request⟩
  | _ => exact ⟨before.clear, before.known, before.keyed, before.key, before.request⟩

/-- A process comes under its lock with the journal that stands. -/
theorem relies_engaged (filed : Filed world) (waits : task.known.webroot = none → Waits task)
    (idle : ¬ task.known.Engaged) (allowed : allow c task.known)
    (answers : Answers world c reply after) (stands : ∀ t ∈ task.seen, world.pending = some t)
    (engaged : (told c reply task.known).Engaged) :
    Relies after (task.called c next reply after) := by
  cases c with
  | lockWebroot webroot =>
    have same : after = world := answers
    subst same
    have before := waits allowed
    cases reply with
    | error e => exact absurd engaged idle
    | ok _ =>
      have began : task.known.jti ≠ none := by
        rcases engaged.2 with clear | began
        · exact absurd (clear.symm.trans before.clear) (by decide)
        · exact began
      cases loaded : task.seen with
      | none =>
        rw [before.known, loaded] at began
        exact absurd rfl began
      | some t =>
        have member : t ∈ task.seen := loaded
        have stands := stands t member
        have known : task.known.jti = some t.jti := before.known.trans (by rw [loaded]; rfl)
        have keyed := before.keyed t member
        constructor
        · exact stands.trans loaded.symm
        · intro t' member'
          cases loaded.symm.trans member'
          exact known
        · intro jti own
          cases known.symm.trans own
          exact filed.used t stands
        · intro unkeyed jti own
          cases known.symm.trans own
          exact filed.unsent t stands (Option.isNone_iff_eq_none.mp
            (Option.isSome_eq_false_iff.mp (keyed.symm.trans unkeyed)))
        · intro isKeyed jti own
          cases known.symm.trans own
          exact filed.placed t stands (Option.isSome_iff_ne_none.mp (keyed.symm.trans isKeyed))
        · intro isKeyed t' member'
          cases loaded.symm.trans member'
          exact Option.isSome_iff_ne_none.mp (keyed.symm.trans isKeyed)
        · intro unkeyed _ t' member'
          cases loaded.symm.trans member'
          exact Option.isNone_iff_eq_none.mp
            (Option.isSome_eq_false_iff.mp (keyed.symm.trans unkeyed))
        · intro key held
          cases (before.key t member).symm.trans held
        · intro csr held
          cases (before.request t member).symm.trans held
  | loadPending =>
    cases reply with
    | error e => exact absurd engaged idle
    | ok pending =>
      have same : after = world := answers.1
      have loaded := answers.2 pending rfl
      subst same
      have unbegun : task.known.jti = none := allowed
      cases pending with
      | some t =>
        by_cases open' : task.known.webroot = none
        · have kept : (told .loadPending (.ok (some t)) task.known).webroot = none := by
            show (if task.known.webroot = none then task.known.began _ _ else _).webroot = none
            rw [if_pos open']
            exact open'
          exact absurd kept engaged.1
        · have kept : told .loadPending (.ok (some t)) task.known = task.known := if_neg open'
          rw [kept] at engaged
          exact absurd engaged idle
      | none =>
        have none : ∀ jti, jti ∉ task.known.jti := by
          intro jti own
          cases unbegun.symm.trans own
        constructor
        · exact loaded.symm
        · intro t member
          cases member
        · intro jti own
          exact absurd own (none jti)
        · intro _ jti own
          exact absurd own (none jti)
        · intro _ jti own
          exact absurd own (none jti)
        · intro _ t member
          cases member
        · intro _ _ t member
          cases member
        · intro _ _ jti own
          exact absurd own (none jti)
        · intro _ _ jti own
          exact absurd own (none jti)
  | newJti => exact absurd ⟨allowed.1, .inl allowed.2.1⟩ idle
  | persistPending t => exact absurd allowed.1.1 idle
  | readCsr jti => exact absurd allowed.1.1 idle
  | lockAccount url =>
    cases reply with
    | ok _ => exact absurd engaged idle
    | error e => exact absurd engaged idle
  | _ => exact absurd engaged idle

/-- A call that leaves alone what its process goes by. -/
theorem relies_kept {account : Option String} {clear : Bool} (relies : Relies world task)
    (same : Same world after)
    (known : told c reply task.known = { task.known with account, clear })
    (seen : seenAfter after task.seen c reply = task.seen) :
    Relies after (task.called c next reply after) := by
  have kept := relies.same same
  have told' : (task.called c next reply after).known = { task.known with account, clear } :=
    known
  have seen' : (task.called c next reply after).seen = task.seen := seen
  constructor
  · rw [seen']
    exact kept.pending
  · rw [seen', told']
    exact kept.own
  · rw [told']
    exact kept.used
  · rw [told']
    exact kept.unsent
  · rw [told']
    exact kept.placed
  · rw [seen', told']
    exact kept.keyed
  · rw [seen', told']
    exact kept.unkeyed
  · rw [told']
    exact kept.key
  · rw [told']
    exact kept.request

/-- Another value for the key of one transaction, where no finalized request and no journal
goes by the old one. -/
theorem filed_writeKey {jti key : String} (filed : Filed world)
    (unsent : ∀ csr, (jti, csr) ∉ world.finalized)
    (unkeyed : ∀ t ∈ world.pending, t.jti = jti → t.privateKeySha256 = none) :
    Filed { world with keys := Function.update world.keys jti (some key) } := by
  constructor
  · exact filed.unsent
  · intro t member keyed
    have other : t.jti ≠ jti := fun same => keyed (unkeyed t member same)
    obtain ⟨csr, request, kept⟩ := filed.placed t member keyed
    refine ⟨csr, request, ?_⟩
    show Function.update world.keys jti (some key) t.jti = some csr.key
    rw [Function.update_of_ne other]
    exact kept
  · intro jti' csr sent
    have other : jti' ≠ jti := fun same => unsent csr (same ▸ sent)
    show Function.update world.keys jti (some key) jti' = some csr.key
    rw [Function.update_of_ne other]
    exact filed.kept jti' csr sent
  · exact filed.used
  · exact filed.sent

theorem filed_writeCsr {jti : String} {csr : CertificateRequest} (filed : Filed world)
    (key : world.keys jti = some csr.key) :
    Filed { world with requests := Function.update world.requests jti (some csr) } := by
  constructor
  · exact filed.unsent
  · intro t member keyed
    by_cases own : t.jti = jti
    · refine ⟨csr, ?_, ?_⟩
      · show Function.update world.requests jti (some csr) t.jti = some csr
        rw [own, Function.update_self]
      · rw [own]
        exact key
    · obtain ⟨csr', request, kept⟩ := filed.placed t member keyed
      refine ⟨csr', ?_, kept⟩
      show Function.update world.requests jti (some csr) t.jti = some csr'
      rw [Function.update_of_ne own]
      exact request
  · exact filed.kept
  · exact filed.used
  · exact filed.sent

theorem filed_finalizeCsr {jti : String} {csr : CertificateRequest} (filed : Filed world)
    (used : jti ∈ world.used) (key : world.keys jti = some csr.key)
    (keyed : ∀ t ∈ world.pending, t.jti = jti → t.privateKeySha256 ≠ none) :
    Filed { world with finalized := (jti, csr) :: world.finalized } := by
  constructor
  · intro t member unkeyed csr' sent
    rcases List.mem_cons.mp sent with same | sent
    · cases same
      exact keyed t member rfl unkeyed
    · exact filed.unsent t member unkeyed csr' sent
  · exact filed.placed
  · intro jti' csr' sent
    rcases List.mem_cons.mp sent with same | sent
    · cases same
      exact key
    · exact filed.kept jti' csr' sent
  · exact filed.used
  · intro jti' csr' sent
    rcases List.mem_cons.mp sent with same | sent
    · cases same
      exact used
    · exact filed.sent jti' csr' sent

theorem filed_persistPending {t : AcmeTransaction} (filed : Filed world)
    (used : t.jti ∈ world.used)
    (unsent : t.privateKeySha256 = none → ∀ csr, (t.jti, csr) ∉ world.finalized)
    (placed : t.privateKeySha256 ≠ none → ∃ csr, InPlace world t.jti csr) :
    Filed { world with pending := some t } := by
  constructor
  · intro t' member
    cases member
    exact unsent
  · intro t' member
    cases member
    exact placed
  · exact filed.kept
  · intro t' member
    cases member
    exact used
  · exact filed.sent

theorem filed_removePending (filed : Filed world) : Filed { world with pending := none } := by
  constructor
  · intro t member
    cases member
  · intro t member
    cases member
  · exact filed.kept
  · intro t member
    cases member
  · exact filed.sent

theorem filed_newJti {jti : String} (filed : Filed world) :
    Filed { world with used := jti :: world.used } :=
  ⟨filed.unsent, filed.placed, filed.kept,
    fun t member => List.mem_cons_of_mem jti (filed.used t member),
    fun jti' csr sent => List.mem_cons_of_mem jti (filed.sent jti' csr sent)⟩

/-- The journal that stands is the transaction's own. -/
theorem Relies.mine (relies : Relies world task) {t : AcmeTransaction}
    (stands : t ∈ world.pending) : t ∈ task.seen ∧ task.known.jti = some t.jti := by
  rw [relies.pending] at stands
  exact ⟨stands, relies.own t stands⟩

section writes

variable {t : AcmeTransaction} {jti : String} {r : Except Failure Unit}

theorem persistPending_keeps {next : Except Failure Unit → Flow AcmeReceipt} (filed : Filed world)
    (relies : Relies world task) (allowed : allow (.persistPending t) task.known)
    (answers : Answers world (.persistPending t) r after) :
    Filed after ∧ Relies after (task.called (.persistPending t) next r after) := by
  obtain ⟨⟨-, own⟩, unkeyed, keyed⟩ := allowed
  have placed : t.privateKeySha256 ≠ none → ∃ csr, InPlace world t.jti csr := by
    intro bound
    rcases keyed bound with keyed | requested
    · exact relies.placed keyed t.jti own
    · obtain ⟨csr, request⟩ := Option.ne_none_iff_exists'.mp requested
      exact ⟨csr, relies.request csr request t.jti own⟩
  rcases answers with rfl | ⟨⟨e, rfl⟩, rfl⟩
  · have seen : (task.called (.persistPending t) next r { world with pending := some t }).seen =
        some t := if_pos rfl
    have known : ∃ keyed', told (.persistPending t) r task.known =
          { task.known with keyed := keyed' } ∧
        (keyed' = true → task.known.keyed = true ∨ t.privateKeySha256 ≠ none) ∧
        (task.known.keyed = true → keyed' = true) := by
      cases r with
      | error e => exact ⟨task.known.keyed, rfl, .inl, id⟩
      | ok _ =>
        refine ⟨task.known.keyed || t.privateKeySha256.isSome, rfl, ?_, ?_⟩
        · rw [Bool.or_eq_true, Option.isSome_iff_ne_none]
          exact id
        · rw [Bool.or_eq_true]
          exact .inl
    obtain ⟨keyed', known, weak, strong⟩ := known
    have known : (task.called (.persistPending t) next r { world with pending := some t }).known =
        { task.known with keyed := keyed' } := known
    have still : keyed' = false → task.known.keyed = false := by
      intro no
      rw [← Bool.not_eq_true] at no ⊢
      exact fun yes => no (strong yes)
    refine ⟨filed_persistPending filed (relies.used t.jti own)
      (fun none => relies.unsent (unkeyed none) t.jti own) placed, ?_⟩
    constructor
    · exact seen.symm
    · rw [seen, known]
      intro t' member
      cases member
      exact own
    · rw [known]
      exact relies.used
    · rw [known]
      exact fun no => relies.unsent (still no)
    · rw [known]
      intro yes jti mine
      cases own.symm.trans mine
      rcases weak yes with before | bound
      · exact relies.placed before t.jti own
      · exact placed bound
    · rw [seen, known]
      intro yes t' member
      cases member
      rcases weak yes with before | bound
      · exact fun none => absurd (before.symm.trans (unkeyed none)) (by decide)
      · exact bound
    · rw [seen, known]
      intro no none t' member
      cases member
      by_contra bound
      rcases keyed bound with before | requested
      · exact absurd (before.symm.trans (still no)) (by decide)
      · exact requested none
    · rw [known]
      exact relies.key
    · rw [known]
      exact relies.request
  · refine ⟨filed, relies_kept relies (Same.refl _) rfl ?_⟩
    show (if after.pending = some t then some t else task.seen) = task.seen
    by_cases written : after.pending = some t
    · rw [if_pos written, ← relies.pending, written]
    · rw [if_neg written]

theorem removePending_keeps {next : Except Failure Unit → Flow AcmeReceipt} (filed : Filed world)
    (relies : Relies world task) (answers : Answers world (.removePending jti) r after) :
    Filed after ∧ Relies after (task.called (.removePending jti) next r after) := by
  rcases answers with rfl | ⟨⟨e, rfl⟩, rfl⟩
  · have seen : (task.called (.removePending jti) next r { world with pending := none }).seen =
        none := rfl
    refine ⟨filed_removePending filed, ?_⟩
    constructor
    · exact seen.symm
    · rw [seen]
      intro t member
      cases member
    · exact relies.used
    · exact relies.unsent
    · exact relies.placed
    · rw [seen]
      intro _ t member
      cases member
    · rw [seen]
      intro _ _ t member
      cases member
    · exact relies.key
    · exact relies.request
  · refine ⟨filed, relies_kept relies (Same.refl _) rfl ?_⟩
    show (if after.pending = none then none else task.seen) = task.seen
    by_cases gone : after.pending = none
    · rw [if_pos gone, ← relies.pending, gone]
    · rw [if_neg gone]

theorem writeKey_keeps {key : String} {next : Except Failure Unit → Flow AcmeReceipt}
    (filed : Filed world) (relies : Relies world task)
    (allowed : allow (.writeKey jti key) task.known)
    (answers : Answers world (.writeKey jti key) r after) :
    Filed after ∧ Relies after (task.called (.writeKey jti key) next r after) := by
  obtain ⟨⟨-, own⟩, unkeyed, fresh⟩ := allowed
  have unsent := relies.unsent unkeyed
  have bound : ∀ t ∈ world.pending, t.jti = jti → t.privateKeySha256 = none := by
    intro t stands _
    exact relies.unkeyed unkeyed fresh t (relies.mine stands).1
  have files : Filed after ∧ after.pending = world.pending ∧ after.used = world.used ∧
      after.finalized = world.finalized ∧
      (∀ a, r = .ok a → after.keys jti = some key) := by
    rcases answers with rfl | ⟨⟨e, rfl⟩, rfl⟩
    · exact ⟨filed_writeKey filed (unsent jti own) bound, rfl, rfl, rfl,
        fun _ _ => Function.update_self ..⟩
    · refine ⟨filed, rfl, rfl, rfl, fun a same => ?_⟩
      cases same
  obtain ⟨filed', pending, used, finalized, written⟩ := files
  refine ⟨filed', ?_⟩
  constructor
  · exact pending.trans relies.pending
  · exact relies.own
  · rw [used]
    exact relies.used
  · rw [finalized]
    exact relies.unsent
  · intro keyed
    exact absurd (keyed.symm.trans unkeyed) (by decide)
  · exact relies.keyed
  · intro no _
    exact relies.unkeyed no fresh
  · intro key' held jti' mine
    cases own.symm.trans mine
    cases r with
    | error e => cases held
    | ok a =>
      cases held
      exact written a rfl
  · intro csr held
    cases held

theorem writeCsr_keeps {csr : CertificateRequest} {next : Except Failure Unit → Flow AcmeReceipt}
    (filed : Filed world) (relies : Relies world task)
    (allowed : allow (.writeCsr jti csr) task.known)
    (answers : Answers world (.writeCsr jti csr) r after) :
    Filed after ∧ Relies after (task.called (.writeCsr jti csr) next r after) := by
  obtain ⟨⟨-, own⟩, unkeyed, fresh, key⟩ := allowed
  have key := relies.key csr.key key jti own
  have files : Filed after ∧ after.pending = world.pending ∧ after.used = world.used ∧
      after.finalized = world.finalized ∧ after.keys = world.keys ∧
      (∀ a, r = .ok a → after.requests jti = some csr) := by
    rcases answers with rfl | ⟨⟨e, rfl⟩, rfl⟩
    · exact ⟨filed_writeCsr filed key, rfl, rfl, rfl, rfl, fun _ _ => Function.update_self ..⟩
    · refine ⟨filed, rfl, rfl, rfl, rfl, fun a same => ?_⟩
      cases same
  obtain ⟨filed', pending, used, finalized, keys, written⟩ := files
  refine ⟨filed', ?_⟩
  constructor
  · exact pending.trans relies.pending
  · exact relies.own
  · rw [used]
    exact relies.used
  · rw [finalized]
    exact relies.unsent
  · intro keyed
    exact absurd (keyed.symm.trans unkeyed) (by decide)
  · exact relies.keyed
  · intro no _
    exact relies.unkeyed no fresh
  · rw [keys]
    exact relies.key
  · intro csr' held jti' mine
    cases own.symm.trans mine
    cases r with
    | error e => cases held
    | ok a =>
      cases held
      exact ⟨written a rfl, by rw [keys]; exact key⟩

theorem finalizeCsr_keeps {csr : CertificateRequest}
    {next : Except Failure Unit → Flow AcmeReceipt} (filed : Filed world)
    (relies : Relies world task) (allowed : allow (.finalizeCsr jti csr) task.known)
    (answers : Answers world (.finalizeCsr jti csr) r after) :
    Filed after ∧ Relies after (task.called (.finalizeCsr jti csr) next r after) := by
  obtain ⟨⟨-, own⟩, keyed, request⟩ := allowed
  rcases answers with rfl | ⟨⟨e, rfl⟩, rfl⟩
  · have key := (relies.request csr request jti own).2
    refine ⟨filed_finalizeCsr filed (relies.used jti own) key ?_, ?_⟩
    · intro t stands _
      exact relies.keyed keyed t (relies.mine stands).1
    · refine ⟨relies.pending, relies.own, relies.used, ?_, relies.placed, relies.keyed,
        relies.unkeyed, relies.key, relies.request⟩
      intro no
      exact absurd (keyed.symm.trans no) (by decide)
  · exact ⟨filed, relies_kept relies (Same.refl _) rfl rfl⟩

end writes

theorem newJti_keeps {drawn : Except Failure String}
    {next : Except Failure String → Flow AcmeReceipt} (filed : Filed world)
    (relies : Relies world task) (allowed : allow .newJti task.known)
    (answers : Answers world .newJti drawn after) :
    Filed after ∧ Relies after (task.called .newJti next drawn after) := by
  have unseen : ∀ t, t ∉ task.seen := by
    intro t member
    cases allowed.2.2.symm.trans (relies.own t member)
  rcases answers with ⟨e, rfl, rfl⟩ | ⟨jti, fresh, rfl, rfl⟩
  · exact ⟨filed, relies_kept relies (Same.refl _) rfl rfl⟩
  · refine ⟨filed_newJti filed, ?_⟩
    constructor
    · exact relies.pending
    · intro t member
      exact absurd member (unseen t)
    · intro jti' mine
      cases mine
      exact List.mem_cons_self
    · intro _ jti' mine csr sent
      cases mine
      exact fresh (filed.sent jti csr sent)
    · intro no
      cases no
    · intro no
      cases no
    · intro _ _ t member
      exact absurd member (unseen t)
    · intro key held
      cases held
    · intro csr held
      cases held

theorem readCsr_keeps {jti : String} {read : Except Failure CertificateRequest}
    {next : Except Failure CertificateRequest → Flow AcmeReceipt} (filed : Filed world)
    (relies : Relies world task) (allowed : allow (.readCsr jti) task.known)
    (answers : Answers world (.readCsr jti) read after) :
    Filed after ∧ Relies after (task.called (.readCsr jti) next read after) := by
  obtain ⟨rfl, shown⟩ := answers
  cases read with
  | error e => exact ⟨filed, relies_kept relies (Same.refl _) rfl rfl⟩
  | ok csr =>
    refine ⟨filed, relies.pending, relies.own, relies.used, relies.unsent, relies.placed,
      relies.keyed, ?_, relies.key, ?_⟩
    · intro no
      exact absurd (allowed.2.symm.trans no) (by decide)
    · intro csr' held jti' mine
      cases held
      cases allowed.1.2.symm.trans mine
      obtain ⟨csr', request, key⟩ := relies.placed allowed.2 jti mine
      cases request.symm.trans (shown csr rfl)
      exact ⟨request, key⟩

theorem loadPending_keeps {loaded : Except Failure (Option AcmeTransaction)}
    {next : Except Failure (Option AcmeTransaction) → Flow AcmeReceipt} (filed : Filed world)
    (relies : Relies world task) (engaged : task.known.Engaged)
    (answers : Answers world .loadPending loaded after) :
    Filed after ∧ Relies after (task.called .loadPending next loaded after) := by
  obtain ⟨rfl, shown⟩ := answers
  refine ⟨filed, ?_⟩
  cases loaded with
  | error e => exact relies_kept relies (Same.refl _) rfl rfl
  | ok pending =>
    have stands := (shown pending rfl).trans relies.pending
    cases pending with
    | none => exact relies_kept relies (Same.refl _) rfl stands
    | some t => exact relies_kept relies (Same.refl _) (if_neg engaged.1) stands

/-- A process under its lock makes one call. -/
theorem called_keeps (filed : Filed world) (relies : Relies world task)
    (engaged : task.known.Engaged) (allowed : allow c task.known)
    (answers : Answers world c reply after) :
    Filed after ∧ Relies after (task.called c next reply after) := by
  have quiet : ∀ {account : Option String} {clear : Bool}, Same world after →
      told c reply task.known = { task.known with account, clear } →
      seenAfter after task.seen c reply = task.seen →
      Filed after ∧ Relies after (task.called c next reply after) :=
    fun same known seen => ⟨filed.same same, relies_kept relies same known seen⟩
  have unchanged : after = world → Same world after := fun same => same ▸ Same.refl world
  cases c with
  | persistPending t => exact persistPending_keeps filed relies allowed answers
  | removePending jti => exact removePending_keeps filed relies answers
  | writeKey jti key => exact writeKey_keeps filed relies allowed answers
  | writeCsr jti csr => exact writeCsr_keeps filed relies allowed answers
  | finalizeCsr jti csr => exact finalizeCsr_keeps filed relies allowed answers
  | newJti => exact newJti_keeps filed relies allowed answers
  | readCsr jti => exact readCsr_keeps filed relies allowed answers
  | loadPending => exact loadPending_keeps filed relies engaged answers
  | lockWebroot webroot => exact absurd allowed engaged.1
  | lockAccount url =>
    cases reply with
    | ok _ => exact quiet (unchanged answers) rfl rfl
    | error e => exact quiet (unchanged answers) rfl rfl
  | writeSnapshots jti input =>
    exact quiet (same_of_written answers ⟨rfl, rfl, rfl, rfl, rfl⟩) rfl rfl
  | archiveReceipt receipt =>
    exact quiet (same_of_written answers ⟨rfl, rfl, rfl, rfl, rfl⟩) rfl rfl
  | writeReceipt receipt =>
    exact quiet (same_of_written answers ⟨rfl, rfl, rfl, rfl, rfl⟩) rfl rfl
  | archiveTransaction t =>
    exact quiet (same_of_written answers ⟨rfl, rfl, rfl, rfl, rfl⟩) rfl rfl
  | loadReceipt => exact quiet (unchanged answers.1) rfl rfl
  | loadArchivedReceipt revision => exact quiet (unchanged answers.1) rfl rfl
  | loadSnapshots jti => exact quiet (unchanged answers.1) rfl rfl
  | readKey jti => exact quiet (unchanged answers.1) rfl rfl
  | _ => exact quiet (unchanged answers) rfl rfl

end call

/-! ## Runs of processes that do not meet -/

section runs

variable {r : AcmeRules} {config config' : Config}

theorem flow_obeys (command : Command) :
    (command.flow r).Obeys rules (fun _ _ => True) Known.nothing := by
  cases command with
  | issue input => exact issue_obeys r input
  | recover authority => exact recover_obeys r authority

theorem initial_invariant (initial : Initial config) : Invariant config := by
  constructor
  · constructor
    · intro t member
      cases initial.pending.symm.trans member
    · intro t member
      cases initial.pending.symm.trans member
    · intro jti csr sent
      rw [initial.finalized] at sent
      cases sent
    · intro t member
      cases initial.pending.symm.trans member
    · intro jti csr sent
      rw [initial.finalized] at sent
      cases sent
  · intro i task runs
    cases (initial.tasks i).symm.trans runs
  · intro i task runs
    cases (initial.tasks i).symm.trans runs
  · intro i task runs
    cases (initial.tasks i).symm.trans runs
  · intro i j task other runs
    cases (initial.tasks i).symm.trans runs

theorem put_tasks {i j : ℕ} {new : Option Task} {task : Task}
    (runs : (config.put i new).tasks j = some task) :
    j = i ∧ new = some task ∨ j ≠ i ∧ config.tasks j = some task := by
  have runs : Function.update config.tasks i new j = some task := runs
  by_cases same : j = i
  · rw [same, Function.update_self] at runs
    exact .inl ⟨same, runs⟩
  · rw [Function.update_of_ne same] at runs
    exact .inr ⟨same, runs⟩

/-- A process put in place of another one. The rest go by the same files, unless the new one
is alone under its lock. -/
theorem put_invariant {i : ℕ} {new : Option Task} {world : World} (before : Invariant config)
    (filed : Filed world)
    (obeys : ∀ task, new = some task → task.flow.Obeys rules (fun _ _ => True) task.known)
    (waits : ∀ task, new = some task → task.known.webroot = none → Waits task)
    (relies : ∀ task, new = some task → task.known.Engaged → Relies world task)
    (others : ∀ j other, j ≠ i → config.tasks j = some other → other.known.Engaged →
      Relies world other ∧ ∀ task, new = some task → ¬ task.known.Engaged) :
    Invariant (Config.put { config with world } i new) := by
  constructor
  · exact filed
  · intro j task runs
    rcases put_tasks runs with ⟨-, same⟩ | ⟨-, runs⟩
    · exact obeys task same
    · exact before.obeys j task runs
  · intro j task runs
    rcases put_tasks runs with ⟨-, same⟩ | ⟨-, runs⟩
    · exact waits task same
    · exact before.waits j task runs
  · intro j task runs engaged
    rcases put_tasks runs with ⟨-, same⟩ | ⟨other, runs⟩
    · exact relies task same engaged
    · exact (others j task other runs engaged).1
  · intro j k task task' runs runs' engaged engaged'
    rcases put_tasks runs with ⟨own, same⟩ | ⟨other, runs⟩
    · rcases put_tasks runs' with ⟨own', -⟩ | ⟨other', runs'⟩
      · exact own.trans own'.symm
      · exact absurd engaged ((others k task' other' runs' engaged').2 task same)
    · rcases put_tasks runs' with ⟨-, same'⟩ | ⟨-, runs'⟩
      · exact absurd engaged' ((others j task other runs engaged).2 task' same')
      · exact before.apart j k task task' runs runs' engaged engaged'

theorem step_invariant (before : Invariant config) (step : Step r Alone config config') :
    Invariant config' := by
  cases step with
  | start i command free =>
    refine put_invariant before before.filed ?_ ?_ ?_ ?_
    · intro task same
      cases same
      exact flow_obeys command
    · intro task same _
      cases same
      refine ⟨rfl, rfl, ?_, ?_, ?_⟩
      all_goals
        intro t member
        cases member
    · intro task same engaged
      cases same
      exact absurd rfl engaged.1
    · intro j other _ runs engaged
      refine ⟨before.relies j other runs engaged, fun task same engaged' => ?_⟩
      cases same
      exact engaged'.1 rfl
  | stop i =>
    refine put_invariant before before.filed ?_ ?_ ?_ ?_
    · intro task same
      cases same
    · intro task same
      cases same
    · intro task same
      cases same
    · intro j other _ runs engaged
      refine ⟨before.relies j other runs engaged, fun task same => ?_⟩
      cases same
  | @call i task c next reply world runs calls answers unlocked met =>
    have obeys := before.obeys i task runs
    rw [calls] at obeys
    have allowed : allow c task.known := obeys.1
    have waits := before.waits i task runs
    have goes : ∀ called, some (task.called c next reply world) = some called →
        called.flow.Obeys rules (fun _ _ => True) called.known := by
      intro called same
      cases same
      exact obeys.2 reply
    have pauses : ∀ called, some (task.called c next reply world) = some called →
        called.known.webroot = none → Waits called := by
      intro called same unlocked
      cases same
      exact waits_called waits allowed unlocked
    by_cases engaged : task.known.Engaged
    · have kept : Filed world ∧ Relies world (task.called c next reply world) :=
        called_keeps before.filed (before.relies i task runs engaged) engaged allowed answers
      refine put_invariant before kept.1 goes pauses ?_ ?_
      · intro called same _
        cases same
        exact kept.2
      · intro j other apart runs' engaged'
        exact absurd (before.apart j i other task runs' runs engaged' engaged) apart
    · have same := same_of_idle engaged allowed answers
      refine put_invariant before (before.filed.same same) goes pauses ?_ ?_
      · intro called same engaged'
        cases same
        exact relies_engaged before.filed waits engaged allowed answers
          (met task runs engaged engaged').2 engaged'
      · intro j other apart runs' engaged'
        refine ⟨(before.relies j other runs' engaged').same same, fun called same now => ?_⟩
        cases same
        exact (met task runs engaged now).1 j other apart runs' engaged'

theorem run_invariant (run : Run r Alone config) : Invariant config := by
  induction run with
  | start initial => exact initial_invariant initial
  | step _ step before => exact step_invariant before step

end runs

/-! ## Two issues at once -/

def exampleRules : AcmeRules where
  sha256 := id
  wellFormed _ := .ok ()
  challengeInside _ _ := true

/-- Issues of one binding whose configurations differ in the challenge directory. -/
def exampleInput (webroot : String) : AcmeInput where
  authority :=
    { deploymentId := "deployment"
      declarationRevision := 1
      tenant := "tenant"
      hostname := "id.example.org"
      acmeConfigSha256 := webroot
      providerConfigSha256 := "provider"
      trustAnchorsSha256 := "anchors"
      directoryTrustAnchorSha256 := none
      directoryUrl := "https://acme.example.org/directory"
      allowedOrigins := []
      termsOfServiceUrl := "https://acme.example.org/terms" }
  webroot
  ttlSeconds := 3600

def emptyWorld : World where
  pending := none
  current := none
  archive _ := none
  snapshots _ := none
  keys _ := none
  requests _ := none
  used := []
  finalized := []
  settled := []

/-- Replies without a failure, up to the first journal. -/
def smoothly (world : World) : (c : Call) → Except Failure (Reply c) × World
  | .lockDeployment => (.ok (), world)
  | .lockWebroot _ => (.ok (), world)
  | .loadPending => (.ok world.pending, world)
  | .loadReceipt => (.ok world.current, world)
  | .newJti =>
    if "first" ∉ world.used then (.ok "first", { world with used := "first" :: world.used })
    else if "second" ∉ world.used then
      (.ok "second", { world with used := "second" :: world.used })
    else (.error "no id", world)
  | .now => (.ok 0, world)
  | .writeSnapshots jti input =>
    (.ok (), { world with snapshots := Function.update world.snapshots jti (some input) })
  | .persistPending t => (.ok (), { world with pending := some t })
  | _ => (.error "no reply", world)

theorem smoothly_answers (world : World) (c : Call) :
    Answers world c (smoothly world c).1 (smoothly world c).2 := by
  have failed : ∀ {after : World}, Written (.error "no reply") world after world :=
    .inr ⟨⟨_, rfl⟩, rfl⟩
  cases c with
  | newJti =>
    show Answers world .newJti (if _ then _ else _ : Except Failure String × World).1
      (if _ then _ else _ : Except Failure String × World).2
    by_cases first : "first" ∉ world.used
    · rw [if_pos first]
      exact .inr ⟨_, first, rfl, rfl⟩
    · rw [if_neg first]
      by_cases second : "second" ∉ world.used
      · rw [if_pos second]
        exact .inr ⟨_, second, rfl, rfl⟩
      · rw [if_neg second]
        exact .inl ⟨_, rfl, rfl⟩
  | loadPending => exact ⟨rfl, fun a same => (Except.ok.inj same).symm⟩
  | loadReceipt => exact ⟨rfl, fun a same => (Except.ok.inj same).symm⟩
  | writeSnapshots jti input => exact .inl rfl
  | persistPending t => exact .inl rfl
  | loadArchivedReceipt revision => exact ⟨rfl, fun a same => by cases same⟩
  | loadSnapshots jti => exact ⟨rfl, fun a same => by cases same⟩
  | readKey jti => exact ⟨rfl, fun a same => by cases same⟩
  | readCsr jti => exact ⟨rfl, fun a same => by cases same⟩
  | removePending jti => exact failed
  | writeKey jti key => exact failed
  | writeCsr jti csr => exact failed
  | finalizeCsr jti csr => exact failed
  | archiveReceipt receipt => exact failed
  | writeReceipt receipt => exact failed
  | archiveTransaction t => exact failed
  | _ => exact rfl

section alone

variable {r : AcmeRules} {world : World} {a : Task}

def solo (world : World) (a : Task) : Config := Config.put ⟨world, fun _ => none⟩ 0 (some a)

theorem solo_tasks {j : ℕ} {task : Task} (runs : (solo world a).tasks j = some task) :
    j = 0 ∧ task = a := by
  rcases put_tasks runs with ⟨same, new⟩ | ⟨-, runs⟩
  · exact ⟨same, (Option.some.inj new).symm⟩
  · cases runs

/-- One process on its own makes its next call. -/
theorem solo_step {c : Call} {next : Except Failure (Reply c) → Flow AcmeReceipt}
    (run : Run r Alone (solo world a)) (calls : a.flow = .call c next)
    (stands : ∀ t ∈ a.seen, world.pending = some t) :
    Run r Alone (solo (smoothly world c).2
      (a.called c next (smoothly world c).1 (smoothly world c).2)) := by
  have step : Step r Alone (solo world a)
      (Config.put { solo world a with world := (smoothly world c).2 } 0
        (some (a.called c next (smoothly world c).1 (smoothly world c).2))) := by
    refine .call rfl calls (smoothly_answers world c) (fun _ _ taken => ?_) ?_
    · cases c with
      | lockWebroot webroot =>
        obtain ⟨j, other, apart, runs, -⟩ := taken
        exact apart (solo_tasks runs).1
      | lockAccount url =>
        obtain ⟨j, other, apart, runs, -⟩ := taken
        exact apart (solo_tasks runs).1
      | _ => exact taken
    · intro task runs _ _
      rw [(solo_tasks runs).2]
      exact ⟨fun j other apart runs' => absurd (solo_tasks runs').1 apart, stands⟩
  have same : Config.put { solo world a with world := (smoothly world c).2 } 0
      (some (a.called c next (smoothly world c).1 (smoothly world c).2)) =
      solo (smoothly world c).2 (a.called c next (smoothly world c).1 (smoothly world c).2) := by
    show (⟨_, Function.update (Function.update _ 0 _) 0 _⟩ : Config) =
      ⟨_, Function.update _ 0 _⟩
    rw [Function.update_idem]
  rw [same] at step
  exact run.step step

end alone

section pair

/-- Two processes and nothing else. -/
def both (world : World) (a b : Task) : Config where
  world
  tasks := Function.update (Function.update (fun _ => none) 1 (some b)) 0 (some a)

def blocked (other : Task) : Call → Bool
  | .lockWebroot webroot => other.known.webroot = some webroot
  | .lockAccount url => other.known.account = some url
  | _ => false

/-- One process makes its next call, if the other one does not have the lock. -/
def turn (world : World) (task other : Task) : World × Task :=
  match task.flow with
  | .done _ => (world, task)
  | .call c next =>
    if blocked other c then (world, task)
    else ((smoothly world c).2,
      task.called c next (smoothly world c).1 (smoothly world c).2)

/-- The first process makes a call, or the second. -/
def turns : List Bool → World → Task → Task → Config
  | [], world, a, b => both world a b
  | true :: rest, world, a, b => turns rest (turn world a b).1 (turn world a b).2 b
  | false :: rest, world, a, b => turns rest (turn world b a).1 a (turn world b a).2

variable {r : AcmeRules} {world : World} {a b : Task}

theorem both_tasks {j : ℕ} {task : Task} (runs : (both world a b).tasks j = some task) :
    j = 0 ∧ task = a ∨ j = 1 ∧ task = b := by
  have runs : Function.update (Function.update (fun _ => none) 1 (some b)) 0 (some a) j =
    some task := runs
  by_cases first : j = 0
  · rw [first, Function.update_self] at runs
    exact .inl ⟨first, (Option.some.inj runs).symm⟩
  · rw [Function.update_of_ne first] at runs
    by_cases second : j = 1
    · rw [second, Function.update_self] at runs
      exact .inr ⟨second, (Option.some.inj runs).symm⟩
    · rw [Function.update_of_ne second] at runs
      cases runs

theorem put_first (world' : World) (a' : Task) :
    Config.put { both world a b with world := world' } 0 (some a') = both world' a' b := by
  show (⟨world', _⟩ : Config) = ⟨world', _⟩
  rw [both, Function.update_idem]

theorem put_second (world' : World) (b' : Task) :
    Config.put { both world a b with world := world' } 1 (some b') = both world' a b' := by
  show (⟨world', _⟩ : Config) = ⟨world', _⟩
  rw [both, Function.update_comm (by decide), Function.update_idem]

theorem not_taken {i : ℕ} {other : Task} {c : Call} {config : Config}
    (free : ¬ blocked other c = true)
    (only : ∀ j task, j ≠ i → config.tasks j = some task → task = other) :
    ¬ Taken config i c := by
  intro taken
  cases c with
  | lockWebroot webroot =>
    obtain ⟨j, task, apart, runs, held⟩ := taken
    rw [only j task apart runs] at held
    exact free (decide_eq_true held)
  | lockAccount url =>
    obtain ⟨j, task, apart, runs, held⟩ := taken
    rw [only j task apart runs] at held
    exact free (decide_eq_true held)
  | _ => exact taken

theorem turn_first (run : Run r anyhow (both world a b)) :
    Run r anyhow (both (turn world a b).1 (turn world a b).2 b) := by
  unfold turn
  cases calls : a.flow with
  | done result => exact run
  | call c next =>
    by_cases free : blocked b c = true
    · dsimp only
      rw [if_pos free]
      exact run
    · dsimp only
      rw [if_neg free]
      have step : Step r anyhow (both world a b)
          (Config.put { both world a b with world := (smoothly world c).2 } 0
            (some (a.called c next (smoothly world c).1 (smoothly world c).2))) :=
        .call rfl calls (smoothly_answers world c) (fun _ _ => not_taken free ?_) trivial
      · rw [put_first] at step
        exact run.step step
      · intro j task apart runs
        rcases both_tasks runs with ⟨same, -⟩ | ⟨-, same⟩
        · exact absurd same apart
        · exact same

theorem turn_second (run : Run r anyhow (both world a b)) :
    Run r anyhow (both (turn world b a).1 a (turn world b a).2) := by
  unfold turn
  cases calls : b.flow with
  | done result => exact run
  | call c next =>
    by_cases free : blocked a c = true
    · dsimp only
      rw [if_pos free]
      exact run
    · dsimp only
      rw [if_neg free]
      have step : Step r anyhow (both world a b)
          (Config.put { both world a b with world := (smoothly world c).2 } 1
            (some (b.called c next (smoothly world c).1 (smoothly world c).2))) :=
        .call rfl calls (smoothly_answers world c) (fun _ _ => not_taken free ?_) trivial
      · rw [put_second] at step
        exact run.step step
      · intro j task apart runs
        rcases both_tasks runs with ⟨-, same⟩ | ⟨same, -⟩
        · exact same
        · exact absurd same apart

theorem run_turns (schedule : List Bool) (run : Run r anyhow (both world a b)) :
    Run r anyhow (turns schedule world a b) := by
  induction schedule generalizing world a b with
  | nil => exact run
  | cons first rest ih =>
    cases first with
    | true => exact ih (turn_first run)
    | false => exact ih (turn_second run)

/-- The start of an issue. -/
def issuing (webroot : String) : Task :=
  ⟨(Command.issue (exampleInput webroot)).flow exampleRules, Known.nothing, none⟩

theorem initial_empty : Initial ⟨emptyWorld, fun _ => none⟩ := ⟨rfl, rfl, fun _ => rfl⟩

theorem run_both (webroot webroot' : String) :
    Run exampleRules anyhow (both emptyWorld (issuing webroot) (issuing webroot')) :=
  ((Run.start initial_empty).step
    (.start 1 (.issue (exampleInput webroot')) rfl)).step
    (.start 0 (.issue (exampleInput webroot)) rfl)

/-- Both issues pass their checks before either writes its journal. The one that draws the
first id is left with its journal to write when the other has written its own. -/
def overlapping : List Bool :=
  List.replicate 3 true ++ List.replicate 7 false ++ List.replicate 5 true

end pair

end NazoAuthCtl.AcmeConcurrency
