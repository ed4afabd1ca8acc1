import Mathlib.Logic.Function.Basic
import NazoAuthCtl.KeyStoreFlows

/-!
# Key store operations taken in turn

Any number of processes work on the key store of one instance, one file operation at a time,
and a process may be lost after any of them. What a process has learned of the files under
the lock stays true until it ends, because nothing is written without the lock.
-/

set_option autoImplicit false
set_option linter.all false

namespace NazoAuthCtl.KeyStoreRuns

open Checks KeyStoreFlows
open TargetState (DeploymentId)

/-! ## The files of an instance -/

structure KeyFiles where
  records : Kid → Option KeyRecord
  active : Option ActivePointer

def KeyFiles.putRecord (files : KeyFiles) (kid : Kid) (record : Option KeyRecord) : KeyFiles :=
  { files with records := Function.update files.records kid record }

/-- What an operation that takes place makes of the files. -/
def written : Call → KeyFiles → KeyFiles
  | .writeRecord kid record, files => files.putRecord kid (some record)
  | .writePointer pointer, files => { files with active := some pointer }
  | .removePointer, files => { files with active := none }
  | .removeRecord kid, files => files.putRecord kid none
  | _, files => files

/-- A record that `read_key_record` accepts under the kid. -/
def Derives (platform : KeyPlatform) (deploymentId : DeploymentId) (record : KeyRecord)
    (kid : Kid) : Prop :=
  kidShaped kid = true ∧ ∃ key, validateRecord platform deploymentId kid record = .ok key

/-! ## What a process goes by -/

/-- What a process that has the lock knows of the files, and nothing without the lock. -/
abbrev Known : Type := Option (KeyFiles → Prop)

section rules

variable {platform : KeyPlatform}

/-- What a reply says of the files. -/
def learned : (c : Call) → Reply platform c → KeyFiles → Prop
  | .readPointer, pointer, files => files.active = pointer
  | .readRecord kid, record, files => files.records kid = some record
  | .probeRecord kid, present, files => (files.records kid).isSome = present
  | _, _, _ => True

def told : (c : Call) → Except String (Reply platform c) → Known → Known
  | _, .error _, known => known
  | .lock, .ok _, _ => some fun _ => True
  | c, .ok reply, known => known.map fun holds files =>
      ∃ before, holds before ∧ learned c reply before ∧ files = written c before

/-- The record of the kid is in place. -/
def InPlace (platform : KeyPlatform) (deploymentId : DeploymentId) (files : KeyFiles)
    (kid : Kid) : Prop :=
  ∃ record, files.records kid = some record ∧ Derives platform deploymentId record kid

/-- What has to be known when an operation of a command writes. -/
def Allowed (platform : KeyPlatform) (deploymentId : DeploymentId) (command : Command) :
    Call → (KeyFiles → Prop) → Prop
  | .writeRecord kid record, holds => Derives platform deploymentId record kid ∧
      ∀ files, holds files → files.records kid = none
  | .writePointer pointer, holds => pointer.schema = controllerKeyStoreSchema ∧
      (∀ files, holds files → InPlace platform deploymentId files pointer.activeKid) ∧
      (command = .setActiveKid pointer.activeKid ∨
        (command = .getOrCreateActive ∧ ∀ files, holds files → files.active = none))
  | .removePointer, _ => command = .clearActive
  | .removeRecord kid, holds => command = .retireKid kid ∧
      ∀ files, holds files → ∀ pointer ∈ files.active, pointer.activeKid ≠ kid
  | _, _ => True

/-- The operations that change a file. -/
def Writes : Call → Prop
  | .writeRecord .. | .writePointer _ | .removePointer | .removeRecord _ => True
  | _ => False

variable (platform) in
def rules (deploymentId : DeploymentId) (command : Command) :
    CallFlow.Flow.Rules Call (Reply platform) String Known where
  allow c known := Writes c → ∃ holds, known = some holds ∧
    Allowed platform deploymentId command c holds
  told := told

end rules

/-! ## The operations keep to the rules -/

section obeys

variable {platform : KeyPlatform} {deploymentId : DeploymentId} {command : Command}
  {holds : KeyFiles → Prop} {known : Known}

theorem validateRecord_ok {kid : Kid} {record : KeyRecord} {key : ValidatedKeyRecord}
    (accepted : validateRecord platform deploymentId kid record = .ok key) :
    key.loaded.kid = kid := by
  simp only [validateRecord, bind_ok, exists_unit, check_ok] at accepted
  obtain ⟨_, same, accepted⟩ := accepted
  cases seed : decodeKey platform record.privateKey with
  | none =>
    rw [seed] at accepted
    cases accepted
  | some seed' =>
    simp only [seed] at accepted
    cases publicKey : decodeKey platform record.publicKey with
    | none =>
      rw [publicKey] at accepted
      cases accepted
    | some publicKey' =>
      simp only [publicKey, bind_ok, exists_unit, pure_ok] at accepted
      obtain ⟨_, _, rfl⟩ := accepted
      exact same

theorem newRecord_derives (drawn : Drawn platform) :
    Derives platform deploymentId (newRecord platform drawn) (newRecord platform drawn).kid := by
  refine ⟨drawn.encodable.shaped, ⟨⟨(newRecord platform drawn).kid, drawn.seed⟩,
    (newRecord platform drawn).publicKey, drawn.createdAt⟩, ?_⟩
  have seed : decodeKey platform (newRecord platform drawn).privateKey = some drawn.seed :=
    drawn.encodable.seedText
  have publicKey : decodeKey platform (newRecord platform drawn).publicKey =
      some (platform.verifyingKey drawn.seed) := drawn.encodable.publicText
  simp only [validateRecord, bind_ok, exists_unit, check_ok, seed, publicKey, pure_ok]
  exact ⟨rfl, trivial, rfl, trivial, rfl⟩

theorem obeys_perform (c : Call) {Q : Reply platform c → Known → Prop} :
    (perform platform c).Obeys (rules platform deploymentId command) Q known ↔
      (Writes c → ∃ holds, known = some holds ∧ Allowed platform deploymentId command c holds) ∧
        ∀ a, Q a (told c (.ok a) known) :=
  CallFlow.Flow.obeys_perform c

theorem obeys_reported (context : String) (c : Call) {Q : Reply platform c → Known → Prop} :
    (reported platform context c).Obeys (rules platform deploymentId command) Q known ↔
      (Writes c → ∃ holds, known = some holds ∧ Allowed platform deploymentId command c holds) ∧
        ∀ a, Q a (told c (.ok a) known) := by
  constructor
  · rintro ⟨allowed, later⟩
    exact ⟨allowed, fun a => later (.ok a)⟩
  · rintro ⟨allowed, later⟩
    refine ⟨allowed, fun reply => ?_⟩
    cases reply with
    | ok a => exact later a
    | error e => trivial

theorem obeys_readKeyRecord (kid : Kid) {Q : ValidatedKeyRecord → Known → Prop}
    (later : ∀ key record after, Derives platform deploymentId record kid →
      key.loaded.kid = kid →
      (∀ files, after files → holds files ∧ files.records kid = some record) →
      Q key (some after)) :
    (readKeyRecord platform deploymentId kid).Obeys (rules platform deploymentId command) Q
      (some holds) := by
  unfold readKeyRecord
  refine (CallFlow.Flow.obeys_bind _ _).mpr ?_
  refine (CallFlow.Flow.obeys_require _).mpr fun shaped => ?_
  refine (CallFlow.Flow.obeys_bind _ _).mpr ?_
  refine (obeys_reported _ _).mpr ⟨fun writes => absurd writes id, fun record => ?_⟩
  refine (CallFlow.Flow.obeys_ofExcept _).mpr fun key accepted => ?_
  refine later key record _ ⟨shaped, key, accepted⟩ (validateRecord_ok accepted) ?_
  rintro files ⟨before, held, read, rfl⟩
  exact ⟨held, read⟩

theorem obeys_readActivePointer {Q : Option ActivePointer → Known → Prop}
    (later : ∀ pointer after,
      (∀ files, after files → holds files ∧ files.active = pointer) → Q pointer (some after)) :
    (readActivePointer platform deploymentId).Obeys (rules platform deploymentId command) Q
      (some holds) := by
  unfold readActivePointer
  refine (CallFlow.Flow.obeys_bind _ _).mpr ?_
  refine (obeys_reported _ _).mpr ⟨fun writes => absurd writes id, fun pointer => ?_⟩
  refine (CallFlow.Flow.obeys_ofExcept _).mpr fun validated accepted => ?_
  have same : validated = pointer := by
    cases pointer with
    | none =>
      cases accepted
      rfl
    | some pointer =>
      simp only [validatePointer, bind_ok, exists_unit, pure_ok] at accepted
      exact accepted.2.2.symm
  refine later validated _ ?_
  rintro files ⟨before, held, read, rfl⟩
  exact ⟨held, same ▸ read⟩

theorem obeys_generateCandidateLocked {Q : ValidatedKeyRecord → Known → Prop}
    (later : ∀ key record after, Derives platform deploymentId record key.loaded.kid →
      (∀ files, after files → ∃ before, holds before ∧
        files = before.putRecord key.loaded.kid (some record)) →
      Q key (some after)) :
    (generateCandidateLocked platform deploymentId).Obeys (rules platform deploymentId command) Q
      (some holds) := by
  unfold generateCandidateLocked
  refine (CallFlow.Flow.obeys_bind _ _).mpr ?_
  refine (obeys_perform _).mpr ⟨fun writes => absurd writes id, fun drawn => ?_⟩
  refine (CallFlow.Flow.obeys_bind _ _).mpr ?_
  refine (obeys_perform _).mpr ⟨fun writes => absurd writes id, fun present => ?_⟩
  refine (CallFlow.Flow.obeys_bind _ _).mpr ?_
  refine (CallFlow.Flow.obeys_require _).mpr fun absent => ?_
  refine (CallFlow.Flow.obeys_bind _ _).mpr ?_
  refine (obeys_reported _ _).mpr ⟨fun _ => ⟨_, rfl, newRecord_derives drawn, ?_⟩, fun _ => ?_⟩
  · rintro files ⟨before, _, probed, rfl⟩
    rw [absent] at probed
    exact Option.not_isSome_iff_eq_none.mp (Bool.eq_false_iff.mp probed)
  · refine later ⟨⟨_, drawn.seed⟩, _, _⟩ (newRecord platform drawn) _ (newRecord_derives drawn) ?_
    rintro files ⟨before, ⟨first, ⟨start, held, _, rfl⟩, _, rfl⟩, _, rfl⟩
    exact ⟨_, held, rfl⟩

theorem locked_obeys {Q : Unit → Known → Prop}
    (later : Q () (some fun _ => True)) :
    (perform platform .lock).Obeys (rules platform deploymentId command) Q known :=
  (obeys_perform .lock).mpr ⟨fun writes => absurd writes id, fun _ => later⟩

theorem generateCandidate_obeys : (generateCandidate platform deploymentId).Obeys
    (rules platform deploymentId command) (fun _ _ => True) none := by
  unfold generateCandidate validateInstanceIdentifier
  refine (CallFlow.Flow.obeys_bind _ _).mpr ((CallFlow.Flow.obeys_require _).mpr fun _ => ?_)
  refine (CallFlow.Flow.obeys_bind _ _).mpr ?_
  refine (obeys_perform _).mpr ⟨fun writes => absurd writes id, fun _ => ?_⟩
  refine (CallFlow.Flow.obeys_bind _ _).mpr ?_
  refine (obeys_perform _).mpr ⟨fun writes => absurd writes id, fun _ => ?_⟩
  refine (CallFlow.Flow.obeys_bind _ _).mpr (locked_obeys ?_)
  refine (CallFlow.Flow.obeys_bind _ _).mpr (obeys_generateCandidateLocked ?_)
  intro key record after _ _
  exact (CallFlow.Flow.obeys_monad_pure _).mpr trivial

theorem setActiveKid_obeys (kid : Kid) : (setActiveKid platform deploymentId kid).Obeys
    (rules platform deploymentId (.setActiveKid kid)) (fun _ _ => True) none := by
  unfold setActiveKid validateInstanceIdentifier
  refine (CallFlow.Flow.obeys_bind _ _).mpr ((CallFlow.Flow.obeys_require _).mpr fun _ => ?_)
  refine (CallFlow.Flow.obeys_bind _ _).mpr (locked_obeys ?_)
  refine (CallFlow.Flow.obeys_bind _ _).mpr (obeys_readKeyRecord kid ?_)
  intro key record after derives same read
  refine (CallFlow.Flow.obeys_bind _ _).mpr ?_
  refine (obeys_reported _ _).mpr ⟨fun _ => ⟨after, rfl, rfl, ?_, ?_⟩, fun _ => ?_⟩
  · intro files holds
    rw [same]
    exact ⟨record, (read files holds).2, derives⟩
  · rw [same]
    exact Or.inl rfl
  · exact (CallFlow.Flow.obeys_monad_pure _).mpr trivial

theorem loadActive_obeys : (loadActive platform deploymentId).Obeys
    (rules platform deploymentId command) (fun _ _ => True) none := by
  unfold loadActive validateInstanceIdentifier
  refine (CallFlow.Flow.obeys_bind _ _).mpr ((CallFlow.Flow.obeys_require _).mpr fun _ => ?_)
  refine (CallFlow.Flow.obeys_bind _ _).mpr (locked_obeys ?_)
  refine (CallFlow.Flow.obeys_bind _ _).mpr (obeys_readActivePointer ?_)
  intro pointer after _
  cases pointer with
  | none => exact (CallFlow.Flow.obeys_monad_pure _).mpr trivial
  | some pointer =>
    refine (CallFlow.Flow.obeys_bind _ _).mpr (obeys_readKeyRecord pointer.activeKid ?_)
    intro key record after' _ _ _
    exact (CallFlow.Flow.obeys_monad_pure _).mpr trivial

theorem getOrCreateActive_obeys : (getOrCreateActive platform deploymentId).Obeys
    (rules platform deploymentId .getOrCreateActive) (fun _ _ => True) none := by
  unfold getOrCreateActive validateInstanceIdentifier
  refine (CallFlow.Flow.obeys_bind _ _).mpr ((CallFlow.Flow.obeys_require _).mpr fun _ => ?_)
  refine (CallFlow.Flow.obeys_bind _ _).mpr (locked_obeys ?_)
  refine (CallFlow.Flow.obeys_bind _ _).mpr (obeys_readActivePointer ?_)
  intro pointer after read
  cases pointer with
  | some pointer =>
    refine (CallFlow.Flow.obeys_bind _ _).mpr (obeys_readKeyRecord pointer.activeKid ?_)
    intro key record after' _ _ _
    exact (CallFlow.Flow.obeys_monad_pure _).mpr trivial
  | none =>
    unfold createPointed
    refine (CallFlow.Flow.obeys_bind _ _).mpr ?_
    refine (obeys_perform _).mpr ⟨fun writes => absurd writes id, fun _ => ?_⟩
    refine (CallFlow.Flow.obeys_bind _ _).mpr ?_
    refine (obeys_perform _).mpr ⟨fun writes => absurd writes id, fun _ => ?_⟩
    refine (CallFlow.Flow.obeys_bind _ _).mpr (obeys_generateCandidateLocked ?_)
    intro key record minted derives created
    refine (CallFlow.Flow.obeys_bind _ _).mpr ?_
    refine (obeys_reported _ _).mpr ⟨fun _ => ⟨minted, rfl, rfl, ?_, Or.inr ⟨rfl, ?_⟩⟩,
      fun _ => ?_⟩
    · intro files holds
      obtain ⟨before, _, rfl⟩ := created files holds
      exact ⟨record, Function.update_self _ _ _, derives⟩
    · intro files holds
      obtain ⟨before, known, rfl⟩ := created files holds
      obtain ⟨second, ⟨first, held, _, rfl⟩, _, rfl⟩ := known
      exact (read _ held).2
    · exact (CallFlow.Flow.obeys_monad_pure _).mpr trivial

theorem clearActive_obeys : (clearActive platform deploymentId).Obeys
    (rules platform deploymentId .clearActive) (fun _ _ => True) none := by
  unfold clearActive validateInstanceIdentifier
  refine (CallFlow.Flow.obeys_bind _ _).mpr ((CallFlow.Flow.obeys_require _).mpr fun _ => ?_)
  refine (CallFlow.Flow.obeys_bind _ _).mpr (locked_obeys ?_)
  refine (CallFlow.Flow.obeys_bind _ _).mpr ?_
  refine (obeys_reported _ _).mpr ⟨fun _ => ⟨_, rfl, rfl⟩, fun _ => ?_⟩
  exact (CallFlow.Flow.obeys_monad_pure _).mpr trivial

theorem retireKid_obeys (kid : Kid) : (retireKid platform deploymentId kid).Obeys
    (rules platform deploymentId (.retireKid kid)) (fun _ _ => True) none := by
  unfold retireKid validateInstanceIdentifier
  refine (CallFlow.Flow.obeys_bind _ _).mpr ((CallFlow.Flow.obeys_require _).mpr fun _ => ?_)
  refine (CallFlow.Flow.obeys_bind _ _).mpr (locked_obeys ?_)
  refine (CallFlow.Flow.obeys_bind _ _).mpr (obeys_readActivePointer ?_)
  intro pointer after read
  refine (CallFlow.Flow.obeys_bind _ _).mpr ((CallFlow.Flow.obeys_require _).mpr fun other => ?_)
  refine (CallFlow.Flow.obeys_bind _ _).mpr (obeys_readKeyRecord kid ?_)
  intro key record after' _ _ checked
  refine (CallFlow.Flow.obeys_bind _ _).mpr ?_
  refine (obeys_reported _ _).mpr ⟨fun _ => ⟨after', rfl, rfl, ?_⟩, fun _ => ?_⟩
  · intro files holds
    rw [(read files (checked files holds).1).2]
    exact other
  · exact (CallFlow.Flow.obeys_monad_pure _).mpr trivial

theorem flow_obeys (command : Command) : (command.flow platform deploymentId).Obeys
    (rules platform deploymentId command) (fun _ _ => True) none := by
  cases command with
  | generateCandidate => exact generateCandidate_obeys
  | setActiveKid kid => exact setActiveKid_obeys kid
  | loadActive => exact loadActive_obeys
  | getOrCreateActive => exact getOrCreateActive_obeys
  | clearActive => exact clearActive_obeys
  | retireKid kid => exact retireKid_obeys kid

end obeys

/-! ## A switch of the pointer is the last operation -/

def Switches : Call → Prop
  | .writePointer _ | .removePointer => True
  | _ => False

/-- What a command answers with after its switch. -/
def Reports : Command → Call → Answer → Prop
  | .getOrCreateActive, .writePointer pointer, answer =>
    ∃ loaded, answer = .key loaded ∧ loaded.kid = pointer.activeKid
  | _, _, answer => answer = .done

/-- Once it has switched the pointer the operation has succeeded. -/
def Completes {platform : KeyPlatform} (command : Command) : Flow platform Answer → Prop
  | .done _ => True
  | .call c next => (∀ reply, Completes command (next reply)) ∧
      (Switches c → ∀ u, ∃ answer, next (.ok u) = .done (.ok answer) ∧ Reports command c answer)

section completes

variable {α : Type} {platform : KeyPlatform} {deploymentId : DeploymentId} {command : Command}

variable (platform) in
/-- No switch at all. -/
def steady : CallFlow.Flow.Rules Call (Reply platform) String Unit where
  allow c _ := ¬Switches c
  told _ _ known := known

theorem completes_bind {f : Flow platform α} {g : α → Flow platform Answer}
    (first : f.Obeys (steady platform) (fun a _ => Completes command (g a)) ()) :
    Completes command (f >>= g) := by
  show Completes command (f.bind g)
  induction f with
  | done result =>
    cases result with
    | ok a => exact first
    | error e => trivial
  | call c next ih => exact ⟨fun reply => ih reply (first.2 reply), fun hits => absurd hits first.1⟩

theorem steady_reported (context : String) (c : Call) {Q : Reply platform c → Unit → Prop}
    (other : ¬Switches c) (later : ∀ a, Q a ()) :
    (reported platform context c).Obeys (steady platform) Q () := by
  refine ⟨other, fun reply => ?_⟩
  cases reply with
  | ok a => exact later a
  | error e => trivial

theorem steady_perform (c : Call) {Q : Reply platform c → Unit → Prop} (other : ¬Switches c)
    (later : ∀ a, Q a ()) : (perform platform c).Obeys (steady platform) Q () :=
  (CallFlow.Flow.obeys_perform c).mpr ⟨other, later⟩

theorem steady_require {p : Prop} [Decidable p] (e : String) {Q : Unit → Unit → Prop}
    (later : Q () ()) :
    (CallFlow.Flow.require p e : Flow platform Unit).Obeys (steady platform) Q () :=
  (CallFlow.Flow.obeys_require e).mpr fun _ => later

theorem steady_readKeyRecord (kid : Kid) {Q : ValidatedKeyRecord → Unit → Prop}
    (later : ∀ key, key.loaded.kid = kid → Q key ()) :
    (readKeyRecord platform deploymentId kid).Obeys (steady platform) Q () := by
  unfold readKeyRecord
  refine (CallFlow.Flow.obeys_bind _ _).mpr (steady_require _ ?_)
  refine (CallFlow.Flow.obeys_bind _ _).mpr (steady_reported _ _ id fun record => ?_)
  exact (CallFlow.Flow.obeys_ofExcept _).mpr fun key accepted =>
    later key (validateRecord_ok accepted)

theorem steady_readActivePointer {Q : Option ActivePointer → Unit → Prop}
    (later : ∀ pointer, Q pointer ()) :
    (readActivePointer platform deploymentId).Obeys (steady platform) Q () := by
  unfold readActivePointer
  refine (CallFlow.Flow.obeys_bind _ _).mpr (steady_reported _ _ id fun pointer => ?_)
  exact (CallFlow.Flow.obeys_ofExcept _).mpr fun validated _ => later validated

theorem steady_generateCandidateLocked {Q : ValidatedKeyRecord → Unit → Prop}
    (later : ∀ key, Q key ()) :
    (generateCandidateLocked platform deploymentId).Obeys (steady platform) Q () := by
  unfold generateCandidateLocked
  refine (CallFlow.Flow.obeys_bind _ _).mpr (steady_perform _ id fun drawn => ?_)
  refine (CallFlow.Flow.obeys_bind _ _).mpr (steady_perform _ id fun present => ?_)
  refine (CallFlow.Flow.obeys_bind _ _).mpr (steady_require _ ?_)
  refine (CallFlow.Flow.obeys_bind _ _).mpr (steady_reported _ _ id fun _ => ?_)
  exact (CallFlow.Flow.obeys_monad_pure _).mpr (later _)

theorem completes_switch {c : Call} (context : String) (f : Reply platform c → Answer)
    (reports : ∀ u, Reports command c (f u)) :
    Completes command (reported platform context c >>= fun u => pure (f u)) := by
  constructor
  · intro reply
    cases reply with
    | ok u => trivial
    | error e => trivial
  · intro _ u
    exact ⟨f u, rfl, reports u⟩

theorem completes_steady {f : Flow platform α} {g : α → Answer}
    (first : f.Obeys (steady platform) (fun _ _ => True) ()) :
    Completes command (f >>= fun a => pure (g a)) :=
  completes_bind (first.imp fun _ _ _ => trivial)

theorem flow_completes (command : Command) :
    Completes command (command.flow platform deploymentId) := by
  cases command with
  | generateCandidate =>
    refine completes_bind (steady_require _ ?_)
    refine completes_bind (steady_perform _ id fun _ => ?_)
    refine completes_bind (steady_perform _ id fun _ => ?_)
    refine completes_bind (steady_perform _ id fun _ => ?_)
    exact completes_steady (steady_generateCandidateLocked fun _ => trivial)
  | setActiveKid kid =>
    refine completes_bind (steady_require _ ?_)
    refine completes_bind (steady_perform _ id fun _ => ?_)
    refine completes_bind (steady_readKeyRecord kid fun key _ => ?_)
    exact completes_switch _ _ fun _ => rfl
  | loadActive =>
    refine completes_bind (steady_require _ ?_)
    refine completes_bind (steady_perform _ id fun _ => ?_)
    refine completes_bind (steady_readActivePointer fun pointer => ?_)
    cases pointer with
    | none => trivial
    | some pointer => exact completes_steady (steady_readKeyRecord _ fun _ _ => trivial)
  | getOrCreateActive =>
    refine completes_bind (steady_require _ ?_)
    refine completes_bind (steady_perform _ id fun _ => ?_)
    refine completes_bind (steady_readActivePointer fun pointer => ?_)
    cases pointer with
    | some pointer => exact completes_steady (steady_readKeyRecord _ fun _ _ => trivial)
    | none =>
      refine completes_bind (steady_perform _ id fun _ => ?_)
      refine completes_bind (steady_perform _ id fun _ => ?_)
      refine completes_bind (steady_generateCandidateLocked fun candidate => ?_)
      exact completes_switch _ _ fun _ => ⟨_, rfl, rfl⟩
  | clearActive =>
    refine completes_bind (steady_require _ ?_)
    refine completes_bind (steady_perform _ id fun _ => ?_)
    exact completes_switch _ _ fun _ => rfl
  | retireKid kid =>
    refine completes_bind (steady_require _ ?_)
    refine completes_bind (steady_perform _ id fun _ => ?_)
    refine completes_bind (steady_readActivePointer fun pointer => ?_)
    refine completes_bind (steady_require _ ?_)
    refine completes_bind (steady_readKeyRecord kid fun key _ => ?_)
    exact completes_steady (steady_reported _ _ id fun _ => trivial)

end completes

/-! ## Processes -/

/-- `activated` are the records that the pointer has named, `retired` the kids whose record was
removed. -/
structure World where
  files : KeyFiles
  activated : List (Kid × KeyRecord)
  retired : List Kid

def World.activation (world : World) : Call → List (Kid × KeyRecord)
  | .writePointer pointer => match world.files.records pointer.activeKid with
    | some record => (pointer.activeKid, record) :: world.activated
    | none => world.activated
  | _ => world.activated

def World.retirement (world : World) : Call → List Kid
  | .removeRecord kid => kid :: world.retired
  | _ => world.retired

def World.perform (world : World) (c : Call) : World where
  files := written c world.files
  activated := world.activation c
  retired := world.retirement c

structure Task (platform : KeyPlatform) where
  command : Command
  flow : Flow platform Answer
  known : Known

structure Config (platform : KeyPlatform) where
  world : World
  tasks : ℕ → Option (Task platform)

section runs

variable (platform : KeyPlatform) (deploymentId : DeploymentId)

def Config.put {platform : KeyPlatform} (config : Config platform) (i : ℕ)
    (task : Option (Task platform)) : Config platform :=
  { config with tasks := Function.update config.tasks i task }

/-- An operation takes place as a whole or fails without a trace. `symlink_metadata(..).is_ok()`
does not fail. -/
def Answers (world : World) (c : Call) (reply : Except String (Reply platform c))
    (after : World) : Prop :=
  (∃ e, reply = .error e ∧ after = world ∧ ∀ kid, c ≠ .probeRecord kid) ∨
    ∃ a, reply = .ok a ∧ learned c a world.files ∧ after = world.perform c

/-- The lock of the instance is taken by one process at a time. -/
def Free {platform : KeyPlatform} (config : Config platform) (i : ℕ) : Call → Prop
  | .lock => ∀ j task, j ≠ i → config.tasks j = some task → task.known = none
  | _ => True

/-- A process that ends, done or lost, gives the lock back. -/
inductive Step : Config platform → Config platform → Prop where
  | start {config : Config platform} (i : ℕ) (command : Command)
      (idle : config.tasks i = none) :
      Step config (config.put i (some ⟨command, command.flow platform deploymentId, none⟩))
  | call {config : Config platform} {i : ℕ} {task : Task platform} {c : Call}
      {next : Except String (Reply platform c) → Flow platform Answer}
      {reply : Except String (Reply platform c)} {world : World}
      (runs : config.tasks i = some task) (calls : task.flow = .call c next)
      (answers : Answers platform config.world c reply world)
      (unlocked : ∀ a, reply = .ok a → Free config i c) :
      Step config (Config.put { config with world } i
        (some ⟨task.command, next reply, told c reply task.known⟩))
  | stop {config : Config platform} (i : ℕ) : Step config (config.put i none)

/-- The store of an instance without a key. -/
def emptyConfig : Config platform := ⟨⟨⟨fun _ => none, none⟩, [], []⟩, fun _ => none⟩

inductive Run : Config platform → Prop where
  | start : Run (emptyConfig platform)
  | step {config config' : Config platform} (before : Run config)
      (step : Step platform deploymentId config config') : Run config'

end runs

/-! ## The invariant -/

section invariant

variable {platform : KeyPlatform} {deploymentId : DeploymentId} {config config' : Config platform}

/-- What the files keep in every state. -/
structure Stored (platform : KeyPlatform) (deploymentId : DeploymentId) (world : World) :
    Prop where
  pointed : ∀ pointer, world.files.active = some pointer →
    pointer.schema = controllerKeyStoreSchema ∧
      InPlace platform deploymentId world.files pointer.activeKid
  kept : ∀ kid record, (kid, record) ∈ world.activated → kid ∉ world.retired →
    world.files.records kid = some record

structure Invariant (deploymentId : DeploymentId) (config : Config platform) : Prop where
  stored : Stored platform deploymentId config.world
  alone : ∀ i j first second, config.tasks i = some first → config.tasks j = some second →
    first.known ≠ none → second.known ≠ none → i = j
  facts : ∀ i task holds, config.tasks i = some task → task.known = some holds →
    holds config.world.files
  obeys : ∀ i task, config.tasks i = some task →
    task.flow.Obeys (rules platform deploymentId task.command) (fun _ _ => True) task.known
  completes : ∀ i task, config.tasks i = some task → Completes task.command task.flow

theorem written_other {c : Call} (other : ¬Writes c) (files : KeyFiles) :
    written c files = files := by
  cases c with
  | writeRecord kid record => exact absurd trivial other
  | writePointer pointer => exact absurd trivial other
  | removePointer => exact absurd trivial other
  | removeRecord kid => exact absurd trivial other
  | _ => rfl

theorem told_holds {c : Call} {a : Reply platform c} {known : Known} {files : KeyFiles}
    {after : KeyFiles → Prop} (same : told c (.ok a) known = some after)
    (holds : ∀ before, known = some before → before files) (said : learned c a files) :
    after (written c files) := by
  have mapped : c ≠ .lock → told c (.ok a) known = known.map fun holds files' =>
      ∃ before, holds before ∧ learned c a before ∧ files' = written c before := by
    intro other
    cases c with
    | lock => exact absurd rfl other
    | _ => rfl
  by_cases locks : c = .lock
  · subst locks
    cases same
    trivial
  · rw [mapped locks] at same
    obtain ⟨before, known', rfl⟩ := Option.map_eq_some_iff.mp same
    exact ⟨files, holds before known', said, rfl⟩

theorem told_locked {c : Call} {reply : Except String (Reply platform c)} {known : Known}
    (locked : told c reply known ≠ none) :
    known ≠ none ∨ (c = .lock ∧ ∃ a, reply = .ok a) := by
  by_cases unknown : known = none
  · right
    subst unknown
    cases reply with
    | error e =>
      cases c with
      | _ => exact absurd rfl locked
    | ok a =>
      cases c with
      | lock => exact ⟨rfl, a, rfl⟩
      | _ => exact absurd rfl locked
  · exact Or.inl unknown

/-- One operation of a process that keeps to the rules. -/
theorem stored_perform {world : World} {c : Call} {command : Command}
    {holds : KeyFiles → Prop} (stored : Stored platform deploymentId world)
    (allowed : Writes c → Allowed platform deploymentId command c holds ∧ holds world.files) :
    Stored platform deploymentId (world.perform c) := by
  cases c with
  | writeRecord kid record =>
    obtain ⟨⟨derives, absent⟩, known⟩ := allowed trivial
    have free := absent _ known
    have others : ∀ other record', world.files.records other = some record' →
        (world.perform (.writeRecord kid record)).files.records other = some record' := by
      intro other record' held
      have distinct : other ≠ kid := by
        rintro rfl
        rw [free] at held
        cases held
      exact (Function.update_of_ne distinct _ _).trans held
    constructor
    · intro pointer active
      obtain ⟨schema, record', held, derives'⟩ := stored.pointed pointer active
      exact ⟨schema, record', others _ _ held, derives'⟩
    · intro other record' member unretired
      exact others _ _ (stored.kept other record' member unretired)
  | writePointer pointer =>
    obtain ⟨⟨schema, present, _⟩, known⟩ := allowed trivial
    obtain ⟨record, held, derives⟩ := present _ known
    constructor
    · intro other active
      cases active
      exact ⟨schema, record, held, derives⟩
    · intro kid record' member unretired
      have listed : (kid, record') ∈ (pointer.activeKid, record) :: world.activated := by
        have activated : (world.perform (.writePointer pointer)).activated =
            (pointer.activeKid, record) :: world.activated := by
          simp only [World.perform, World.activation, held]
        rw [← activated]
        exact member
      rcases List.mem_cons.mp listed with same | earlier
      · cases same
        exact held
      · exact stored.kept kid record' earlier unretired
  | removePointer =>
    constructor
    · intro pointer active
      cases active
    · exact stored.kept
  | removeRecord kid =>
    obtain ⟨⟨_, inactive⟩, known⟩ := allowed trivial
    constructor
    · intro pointer active
      obtain ⟨schema, record, held, derives⟩ := stored.pointed pointer active
      have distinct := inactive _ known pointer active
      exact ⟨schema, record, (Function.update_of_ne distinct _ _).trans held, derives⟩
    · intro other record member unretired
      have distinct : other ≠ kid := fun same => unretired (List.mem_cons.mpr (Or.inl same))
      have held := stored.kept other record member
        fun retired => unretired (List.mem_cons_of_mem _ retired)
      exact (Function.update_of_ne distinct _ _).trans held
  | _ => exact ⟨stored.pointed, stored.kept⟩

end invariant

/-! ## Every step keeps it -/

section steps

variable {platform : KeyPlatform} {deploymentId : DeploymentId} {config config' : Config platform}

theorem told_error {c : Call} {e : String} {known : Known} :
    told c (.error e : Except String (Reply platform c)) known = known := by
  cases c with
  | _ => rfl

theorem put_self (i : ℕ) (task : Option (Task platform)) :
    (config.put i task).tasks i = task := Function.update_self _ _ _

theorem put_other {i j : ℕ} (other : j ≠ i) (task : Option (Task platform)) :
    (config.put i task).tasks j = config.tasks j := Function.update_of_ne other _ _

theorem invariant_start (invariant : Invariant deploymentId config) (i : ℕ) (command : Command) :
    Invariant deploymentId
      (config.put i (some ⟨command, command.flow platform deploymentId, none⟩)) := by
  constructor
  · exact invariant.stored
  · intro j k first second firstRuns secondRuns firstLocked secondLocked
    by_cases own : j = i
    · rw [own, put_self] at firstRuns
      cases firstRuns
      exact absurd rfl firstLocked
    · by_cases own' : k = i
      · rw [own', put_self] at secondRuns
        cases secondRuns
        exact absurd rfl secondLocked
      · rw [put_other own] at firstRuns
        rw [put_other own'] at secondRuns
        exact invariant.alone j k first second firstRuns secondRuns firstLocked secondLocked
  · intro j task holds runs known
    by_cases own : j = i
    · rw [own, put_self] at runs
      cases runs
      cases known
    · rw [put_other own] at runs
      exact invariant.facts j task holds runs known
  · intro j task runs
    by_cases own : j = i
    · rw [own, put_self] at runs
      cases runs
      exact flow_obeys command
    · rw [put_other own] at runs
      exact invariant.obeys j task runs
  · intro j task runs
    by_cases own : j = i
    · rw [own, put_self] at runs
      cases runs
      exact flow_completes command
    · rw [put_other own] at runs
      exact invariant.completes j task runs

theorem invariant_stop (invariant : Invariant deploymentId config) (i : ℕ) :
    Invariant deploymentId (config.put i none) := by
  have remaining : ∀ {j task}, (config.put i none).tasks j = some task →
      config.tasks j = some task := by
    intro j task runs
    by_cases own : j = i
    · rw [own, put_self] at runs
      cases runs
    · rwa [put_other own] at runs
  constructor
  · exact invariant.stored
  · intro j k first second firstRuns secondRuns
    exact invariant.alone j k first second (remaining firstRuns) (remaining secondRuns)
  · intro j task holds runs
    exact invariant.facts j task holds (remaining runs)
  · intro j task runs
    exact invariant.obeys j task (remaining runs)
  · intro j task runs
    exact invariant.completes j task (remaining runs)

section call

variable {i : ℕ} {task : Task platform} {c : Call}
  {next : Except String (Reply platform c) → Flow platform Answer}

/-- What the rules ask for is known to the process, and so it is true. -/
theorem call_allowed (invariant : Invariant deploymentId config)
    (runs : config.tasks i = some task) (calls : task.flow = .call c next) (writes : Writes c) :
    ∃ holds, task.known = some holds ∧
      Allowed platform deploymentId task.command c holds ∧ holds config.world.files := by
  have obeys := invariant.obeys i task runs
  rw [calls] at obeys
  obtain ⟨holds, known, allowed⟩ := obeys.1 writes
  exact ⟨holds, known, allowed, invariant.facts i task holds runs known⟩

theorem call_stored (invariant : Invariant deploymentId config)
    (runs : config.tasks i = some task) (calls : task.flow = .call c next) :
    Stored platform deploymentId (config.world.perform c) := by
  by_cases writes : Writes c
  · obtain ⟨holds, _, allowed, known⟩ := call_allowed invariant runs calls writes
    exact stored_perform invariant.stored fun _ => ⟨allowed, known⟩
  · exact @stored_perform _ _ _ _ task.command (fun _ => True) invariant.stored
      fun writes' => absurd writes' writes

/-- Without the lock nothing is written. -/
theorem call_facts (invariant : Invariant deploymentId config)
    (runs : config.tasks i = some task) (calls : task.flow = .call c next) {j : ℕ}
    {other : Task platform} (distinct : j ≠ i) (others : config.tasks j = some other)
    {holds : KeyFiles → Prop} (known : other.known = some holds) :
    holds (written c config.world.files) := by
  by_cases writes : Writes c
  · obtain ⟨_, locked, _⟩ := call_allowed invariant runs calls writes
    exact absurd (invariant.alone j i other task others runs (by simp [known]) (by simp [locked]))
      distinct
  · rw [written_other writes]
    exact invariant.facts j other holds others known

theorem invariant_call (invariant : Invariant deploymentId config)
    (runs : config.tasks i = some task) (calls : task.flow = .call c next)
    {reply : Except String (Reply platform c)} {world : World}
    (answers : Answers platform config.world c reply world)
    (unlocked : ∀ a, reply = .ok a → Free config i c) :
    Invariant deploymentId (Config.put { config with world } i
      (some ⟨task.command, next reply, told c reply task.known⟩)) := by
  have obeys := invariant.obeys i task runs
  have completes := invariant.completes i task runs
  rw [calls] at obeys completes
  have locked : told c reply task.known ≠ none → ∀ j other, j ≠ i →
      config.tasks j = some other → other.known = none := by
    intro locked j other distinct others
    rcases told_locked locked with before | ⟨rfl, a, same⟩
    · by_contra held
      exact distinct (invariant.alone j i other task others runs held before)
    · exact unlocked a same j other distinct others
  constructor
  · rcases answers with ⟨_, _, same, _⟩ | ⟨_, _, _, same⟩
    · rw [same]
      exact invariant.stored
    · rw [same]
      exact call_stored invariant runs calls
  · intro j k first second firstRuns secondRuns firstLocked secondLocked
    by_cases own : j = i
    · by_cases own' : k = i
      · rw [own, own']
      · rw [own, put_self] at firstRuns
        rw [put_other own'] at secondRuns
        cases firstRuns
        exact absurd (locked firstLocked k second own' secondRuns) secondLocked
    · rw [put_other own] at firstRuns
      by_cases own' : k = i
      · rw [own', put_self] at secondRuns
        cases secondRuns
        exact absurd (locked secondLocked j first own firstRuns) firstLocked
      · rw [put_other own'] at secondRuns
        exact invariant.alone j k first second firstRuns secondRuns firstLocked secondLocked
  · intro j other holds others known
    by_cases own : j = i
    · rw [own, put_self] at others
      cases others
      rcases answers with ⟨e, rfl, rfl, _⟩ | ⟨a, rfl, said, rfl⟩
      · have unchanged := @told_error platform c e task.known
        exact invariant.facts i task holds runs (unchanged.symm.trans known)
      · exact told_holds known (fun before held => invariant.facts i task before runs held) said
    · rw [put_other own] at others
      rcases answers with ⟨_, _, rfl, _⟩ | ⟨_, _, _, rfl⟩
      · exact invariant.facts j other holds others known
      · exact call_facts invariant runs calls own others known
  · intro j other others
    by_cases own : j = i
    · rw [own, put_self] at others
      cases others
      exact obeys.2 reply
    · rw [put_other own] at others
      exact invariant.obeys j other others
  · intro j other others
    by_cases own : j = i
    · rw [own, put_self] at others
      cases others
      exact completes.1 reply
    · rw [put_other own] at others
      exact invariant.completes j other others

end call

theorem invariant_step (invariant : Invariant deploymentId config)
    (step : Step platform deploymentId config config') : Invariant deploymentId config' := by
  cases step with
  | start i command idle => exact invariant_start invariant i command
  | call runs calls answers unlocked => exact invariant_call invariant runs calls answers unlocked
  | stop i => exact invariant_stop invariant i

theorem run_invariant (run : Run platform deploymentId config) :
    Invariant deploymentId config := by
  induction run with
  | start =>
    constructor
    · constructor
      · intro pointer active
        cases active
      · intro kid record member
        cases member
    · intro i j first second runs
      cases runs
    · intro i task holds runs
      cases runs
    · intro i task runs
      cases runs
    · intro i task runs
      cases runs
  | step _ step ih => exact invariant_step ih step

end steps

/-! ## The active key -/

/-- What the files answer to a process that is alone. -/
def onFiles (platform : KeyPlatform) (drawn : Except String (Drawn platform)) :
    CallFlow.Flow.Handler Call (Reply platform) String KeyFiles
  | .draw, files => (drawn, files)
  | .readPointer, files => (.ok files.active, files)
  | .readRecord kid, files => match files.records kid with
    | some record => (.ok record, files)
    | none => (.error "No such file or directory (os error 2)", files)
  | .probeRecord kid, files => (.ok (files.records kid).isSome, files)
  | .ensureDirectory, files => (.ok (), files)
  | .ensureKeysDirectory, files => (.ok (), files)
  | .lock, files => (.ok (), files)
  | .writeRecord kid record, files => (.ok (), written (.writeRecord kid record) files)
  | .writePointer pointer, files => (.ok (), written (.writePointer pointer) files)
  | .removePointer, files => (.ok (), written .removePointer files)
  | .removeRecord kid, files => (.ok (), written (.removeRecord kid) files)

/-- The active key can be loaded, and no record that was active is lost before its retirement. -/
structure ActiveKept (deploymentId : DeploymentId) {platform : KeyPlatform}
    (config : Config platform) : Prop where
  loads : ∃ key : Option LoadedControllerKey,
    (∀ drawn, (loadActive platform deploymentId).exec (onFiles platform drawn)
      config.world.files = (.ok (.active key), config.world.files)) ∧
    key.map LoadedControllerKey.kid = config.world.files.active.map ActivePointer.activeKid
  named : ∀ pointer, config.world.files.active = some pointer →
    InPlace platform deploymentId config.world.files pointer.activeKid
  kept : ∀ kid record, (kid, record) ∈ config.world.activated → kid ∉ config.world.retired →
    config.world.files.records kid = some record

/-- A process ends its command with an answer in this step. -/
def Ends {platform : KeyPlatform} (config config' : Config platform) (command : Command)
    (answer : Answer) : Prop :=
  ∃ i task ended, config.tasks i = some task ∧ task.command = command ∧
    config'.tasks i = some ended ∧ ended.flow = .done (.ok answer)

/-- What a step may do to the active key and to the records. -/
structure Changed {platform : KeyPlatform} (config config' : Config platform) : Prop where
  active : config'.world.files.active = config.world.files.active ∨
    (∃ kid, Ends config config' (.setActiveKid kid) .done ∧
      config'.world.files.active = some ⟨controllerKeyStoreSchema, kid⟩) ∨
    (∃ key, Ends config config' .getOrCreateActive (.key key) ∧
      config.world.files.active = none ∧
      config'.world.files.active = some ⟨controllerKeyStoreSchema, key.kid⟩) ∨
    (Ends config config' .clearActive .done ∧ config'.world.files.active = none)
  records : ∀ kid record, config.world.files.records kid = some record →
    config'.world.files.records kid = some record ∨
      ((∃ i task, config.tasks i = some task ∧ task.command = .retireKid kid) ∧
        kid ∈ config'.world.retired ∧
        ∀ pointer, config.world.files.active = some pointer → pointer.activeKid ≠ kid)

section active

variable {platform : KeyPlatform} {deploymentId : DeploymentId} {config config' : Config platform}
  {drawn : Except String (Drawn platform)}

theorem exec_perform (c : Call) (files : KeyFiles) :
    (perform platform c).exec (onFiles platform drawn) files = onFiles platform drawn c files := rfl

theorem exec_reported {context : String} {c : Call} {a : Reply platform c}
    {files files' : KeyFiles} (answered : onFiles platform drawn c files = (.ok a, files')) :
    (reported platform context c).exec (onFiles platform drawn) files = (.ok a, files') := by
  rw [reported, CallFlow.Flow.exec_call, answered]
  rfl

theorem exec_readKeyRecord {kid : Kid} {files : KeyFiles}
    (present : InPlace platform deploymentId files kid) :
    ∃ key, key.loaded.kid = kid ∧ ∀ drawn,
      (readKeyRecord platform deploymentId kid).exec (onFiles platform drawn) files =
        (.ok key, files) := by
  obtain ⟨record, held, shaped, key, accepted⟩ := present
  have read : ∀ drawn, onFiles platform drawn (.readRecord kid) files = (.ok record, files) := by
    intro drawn
    simp only [onFiles, held]
  refine ⟨key, validateRecord_ok accepted, fun drawn => ?_⟩
  unfold readKeyRecord
  rw [CallFlow.Flow.exec_bind_ok _ (CallFlow.Flow.exec_require_true _ _ _ shaped)]
  rw [CallFlow.Flow.exec_bind_ok _ (exec_reported (read drawn)), accepted]
  rfl

theorem exec_readActivePointer {files : KeyFiles}
    (pointed : ∀ pointer, files.active = some pointer →
      pointer.schema = controllerKeyStoreSchema ∧ kidShaped pointer.activeKid = true) :
    (readActivePointer platform deploymentId).exec (onFiles platform drawn) files =
      (.ok files.active, files) := by
  have accepted : validatePointer platform deploymentId files.active = .ok files.active := by
    cases active : files.active with
    | none => rfl
    | some pointer =>
      obtain ⟨schema, shaped⟩ := pointed pointer active
      simp only [validatePointer, bind_ok, exists_unit, check_ok, pure_ok]
      exact ⟨schema, shaped, trivial⟩
  have read : onFiles platform drawn .readPointer files = (.ok files.active, files) := rfl
  unfold readActivePointer
  rw [CallFlow.Flow.exec_bind_ok _ (exec_reported read), accepted]
  rfl

theorem stored_loads (legal : DeploymentPaths.isDeploymentScope deploymentId = true)
    (stored : Stored platform deploymentId config.world) :
    ∃ key : Option LoadedControllerKey,
      (∀ drawn, (loadActive platform deploymentId).exec (onFiles platform drawn)
        config.world.files = (.ok (.active key), config.world.files)) ∧
      key.map LoadedControllerKey.kid = config.world.files.active.map ActivePointer.activeKid := by
  have pointer := fun drawn => @exec_readActivePointer platform deploymentId drawn
    config.world.files fun pointer active => by
      obtain ⟨schema, record, _, shaped, _⟩ := stored.pointed pointer active
      exact ⟨schema, shaped⟩
  have opened : ∀ drawn, (loadActive platform deploymentId).exec (onFiles platform drawn)
      config.world.files = (loadPointed platform deploymentId config.world.files.active).exec
        (onFiles platform drawn) config.world.files := by
    intro drawn
    unfold loadActive validateInstanceIdentifier
    rw [CallFlow.Flow.exec_bind_ok _ (CallFlow.Flow.exec_require_true _ _ _ legal)]
    rw [CallFlow.Flow.exec_bind_ok _ (exec_perform .lock _)]
    rw [CallFlow.Flow.exec_bind_ok _ (pointer drawn)]
  cases active : config.world.files.active with
  | none =>
    refine ⟨none, fun drawn => (opened drawn).trans ?_, rfl⟩
    rw [active]
    rfl
  | some pointer =>
    obtain ⟨key, same, read⟩ := exec_readKeyRecord (stored.pointed pointer active).2
    refine ⟨some key.loaded, fun drawn => (opened drawn).trans ?_, congrArg some same⟩
    rw [active]
    exact CallFlow.Flow.exec_bind_ok _ (read drawn)

theorem onFiles_answers (world : World) (c : Call) :
    ∃ after, Answers platform world c (onFiles platform drawn c world.files).1 after ∧
      after.files = (onFiles platform drawn c world.files).2 := by
  cases c with
  | draw =>
    cases drawn with
    | ok a => exact ⟨_, Or.inr ⟨a, rfl, trivial, rfl⟩, rfl⟩
    | error e => exact ⟨_, Or.inl ⟨e, rfl, rfl, fun kid same => by cases same⟩, rfl⟩
  | readRecord kid =>
    cases held : world.files.records kid with
    | some record =>
      simp only [onFiles, held]
      exact ⟨_, Or.inr ⟨record, rfl, held, rfl⟩, rfl⟩
    | none =>
      simp only [onFiles, held]
      exact ⟨_, Or.inl ⟨_, rfl, rfl, fun kid same => by cases same⟩, rfl⟩
  | readPointer => exact ⟨_, Or.inr ⟨_, rfl, rfl, rfl⟩, rfl⟩
  | probeRecord kid => exact ⟨_, Or.inr ⟨_, rfl, rfl, rfl⟩, rfl⟩
  | _ => exact ⟨_, Or.inr ⟨(), rfl, trivial, rfl⟩, rfl⟩

/-- A pointer operation is the last of its command. -/
theorem call_ends (invariant : Invariant deploymentId config) {i : ℕ} {task : Task platform}
    {c : Call} {next : Except String (Reply platform c) → Flow platform Answer} {world : World}
    {a : Reply platform c} {known : Known} (runs : config.tasks i = some task)
    (calls : task.flow = .call c next) (switches : Switches c) {command : Command}
    (same : task.command = command) :
    ∃ answer, Reports command c answer ∧ Ends config
      (Config.put { config with world } i (some ⟨task.command, next (.ok a), known⟩))
      command answer := by
  have completes := invariant.completes i task runs
  rw [calls] at completes
  obtain ⟨answer, ends, reports⟩ := completes.2 switches a
  exact ⟨answer, same ▸ reports, i, task, _, runs, same, put_self _ _, ends⟩

/-- Only the pointer and the records are written, each by an operation of its own. -/
theorem call_changed (invariant : Invariant deploymentId config) {i : ℕ} {task : Task platform}
    {c : Call} {next : Except String (Reply platform c) → Flow platform Answer}
    {a : Reply platform c} {known : Known} (runs : config.tasks i = some task)
    (calls : task.flow = .call c next) :
    Changed config (Config.put { config with world := config.world.perform c } i
      (some ⟨task.command, next (.ok a), known⟩)) := by
  have ends := @call_ends platform deploymentId config invariant i task c next
    (config.world.perform c) a known runs calls
  have allowed := @call_allowed platform deploymentId config i task c next invariant runs calls
  cases c with
  | writePointer pointer =>
    obtain ⟨holds, _, ⟨schema, present, origin⟩, known⟩ := allowed trivial
    have named : some pointer = some ⟨controllerKeyStoreSchema, pointer.activeKid⟩ := by
      rw [← schema]
    constructor
    · right
      rcases origin with command | ⟨command, absent⟩
      · obtain ⟨answer, reports, ends⟩ := ends trivial command
        cases reports
        exact Or.inl ⟨pointer.activeKid, ends, named⟩
      · obtain ⟨answer, reports, ends⟩ := ends trivial command
        obtain ⟨key, rfl, same⟩ := reports
        refine Or.inr (Or.inl ⟨key, ends, absent _ known, ?_⟩)
        rw [same]
        exact named
    · intro kid record held
      exact Or.inl held
  | removePointer =>
    obtain ⟨holds, _, command, _⟩ := allowed trivial
    obtain ⟨answer, reports, ends⟩ := ends trivial command
    constructor
    · cases reports
      exact Or.inr (Or.inr (Or.inr ⟨ends, rfl⟩))
    · intro kid record held
      exact Or.inl held
  | writeRecord kid record =>
    obtain ⟨holds, _, ⟨_, absent⟩, known⟩ := allowed trivial
    constructor
    · exact Or.inl rfl
    · intro other record' held
      have distinct : other ≠ kid := by
        rintro rfl
        rw [absent _ known] at held
        cases held
      exact Or.inl ((Function.update_of_ne distinct _ _).trans held)
  | removeRecord kid =>
    obtain ⟨holds, _, ⟨command, inactive⟩, known⟩ := allowed trivial
    constructor
    · exact Or.inl rfl
    · intro other record held
      by_cases retired : other = kid
      · subst retired
        exact Or.inr ⟨⟨i, task, runs, command⟩, List.mem_cons_self, inactive _ known⟩
      · exact Or.inl ((Function.update_of_ne retired _ _).trans held)
  | _ => exact ⟨Or.inl rfl, fun kid record held => Or.inl held⟩

theorem step_changed (invariant : Invariant deploymentId config)
    (step : Step platform deploymentId config config') : Changed config config' := by
  cases step with
  | start i command idle => exact ⟨Or.inl rfl, fun kid record held => Or.inl held⟩
  | call runs calls answers unlocked =>
    rcases answers with ⟨e, _, rfl, _⟩ | ⟨a, rfl, _, rfl⟩
    · exact ⟨Or.inl rfl, fun kid record held => Or.inl held⟩
    · exact call_changed invariant runs calls
  | stop i => exact ⟨Or.inl rfl, fun kid record held => Or.inl held⟩

/-- A process that is alone comes to its end. -/
theorem solo_run {flow : Flow platform Answer} {i : ℕ} {task : Task platform}
    (run : Run platform deploymentId config) (runs : config.tasks i = some task)
    (same : task.flow = flow)
    (alone : ∀ j other, j ≠ i → config.tasks j = some other → other.known = none) :
    ∃ config', Run platform deploymentId config' ∧
      config'.world.files = (flow.exec (onFiles platform drawn) config.world.files).2 := by
  induction flow generalizing config task with
  | done result => exact ⟨config, run, rfl⟩
  | call c next ih =>
    obtain ⟨world, answers, files⟩ := @onFiles_answers platform drawn config.world c
    have step := @Step.call platform deploymentId _ _ _ _ _ _ _ runs same answers fun a _ => by
      cases c with
      | lock => exact alone
      | _ => trivial
    obtain ⟨config', run', files'⟩ := ih _ (run.step step) (put_self _ _) rfl
      fun j other distinct others =>
        alone j other distinct ((put_other distinct _).symm.trans others)
    refine ⟨config', run', ?_⟩
    rw [files', CallFlow.Flow.exec_call, ← files]
    rfl

end active

/-! ## A key that is created -/

section sample

def sampleSeed : Bytes := [157, 97, 177, 157, 239, 253, 90, 96, 186, 132, 74, 244, 146, 236, 44,
  196, 68, 73, 197, 105, 123, 50, 105, 25, 112, 59, 172, 3, 28, 174, 127, 96]

def samplePublicKey : Bytes := [215, 90, 152, 1, 130, 177, 10, 183, 213, 75, 254, 211, 201, 100,
  7, 58, 14, 225, 114, 243, 218, 166, 35, 37, 175, 2, 26, 104, 247, 7, 81, 26]

def sampleSeedText : String := "nWGxne_9WmC6hEr0kuwsxERJxWl7MmkZcDusAxyuf2A"

def samplePublicText : String := "11qYAYKxCrfVS_7TyWQHOg7hcvPapiMlrwIaaPcHURo"

def sampleKid : Kid := "If4x36FUomFia_hUBG_SJxt77UtqvkWqWId-9H-XIbk"

/-- The encoding and the key pair of one seed. -/
def samplePlatform : KeyPlatform where
  root := "/var/lib/nazoauthctl/controller-keys"
  encode bytes := if bytes = sampleSeed then sampleSeedText else samplePublicText
  decode text :=
    if text = sampleSeedText then some sampleSeed
    else if text = samplePublicText then some samplePublicKey
    else none
  verifyingKey _ := samplePublicKey
  controllerKeyId _ := sampleKid

def sampleDrawn : Drawn samplePlatform where
  seed := sampleSeed
  createdAt := 1767225600
  encodable := ⟨by decide, by decide, by decide⟩

theorem sample_created :
    ((getOrCreateActive samplePlatform "demo").exec (onFiles samplePlatform (.ok sampleDrawn))
      ⟨fun _ => none, none⟩).2.active = some ⟨controllerKeyStoreSchema, sampleKid⟩ := by
  decide

end sample

end NazoAuthCtl.KeyStoreRuns
