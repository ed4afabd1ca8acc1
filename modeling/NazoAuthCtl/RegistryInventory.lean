import NazoAuthCtl.Registry

/-!
# The registry as an inventory

What every store that started empty keeps to, and what one operation may change. An operation
that reads, decides and then writes once leaves the store as it is or writes that one record;
only forgetting a host takes several steps.
-/

set_option autoImplicit false
set_option linter.all false

namespace NazoAuthCtl.RegistryInventory
open Checks FaultProgram Registry
open FaultProgram.Program hiding pure bind

variable {platform : Platform}

/-! ## Records that read back -/

theorem readRecord_ok {ρ : Type} {size : ρ → ℕ} {validate : ρ → Except String Unit}
    {named : ρ → Bool} {record other : ρ} :
    readRecord size validate named record = .ok other ↔
      record = other ∧ size record ≤ maxRecordBytes ∧ validate record = .ok () ∧
        named record = true := by
  unfold readRecord
  simp only [bind_ok, check_ok, mapError_ok, pure_ok, exists_unit]
  constructor
  · rintro ⟨small, valid, name, same⟩
    exact ⟨same, small, valid, name⟩
  · rintro ⟨same, small, valid, name⟩
    exact ⟨small, valid, name, same⟩

theorem readHostRecord_ok {hostId : Uuid} {record other : HostRecord} :
    readHostRecord platform hostId record = .ok other ↔
      record = other ∧ platform.hostSize record ≤ maxRecordBytes ∧ record.validate = .ok () ∧
        record.hostId = hostId := by
  unfold readHostRecord
  rw [readRecord_ok]
  simp only [decide_eq_true_eq]

theorem readInstanceRecord_ok {deploymentId : String} {record other : InstanceRecord} :
    readInstanceRecord platform deploymentId record = .ok other ↔
      record = other ∧ platform.instanceSize record ≤ maxRecordBytes ∧
        record.validate platform = .ok () ∧ record.deploymentId = deploymentId := by
  unfold readInstanceRecord
  rw [readRecord_ok]
  simp only [decide_eq_true_eq]

/-- Insertion changes exactly one key. -/
theorem lookup_of_insert {κ ρ : Type} [DecidableEq κ] {files : AList fun _ : κ => ρ}
    {key other : κ} {new record : ρ} (stored : (files.insert key new).lookup other = some record) :
    (other = key ∧ record = new) ∨ (other ≠ key ∧ files.lookup other = some record) := by
  by_cases own : other = key
  · subst own
    rw [AList.lookup_insert] at stored
    exact .inl ⟨rfl, (Option.some.inj stored).symm⟩
  · rw [AList.lookup_insert_ne own] at stored
    exact .inr ⟨own, stored⟩

theorem lookup_of_erase {κ ρ : Type} [DecidableEq κ] {files : AList fun _ : κ => ρ}
    {key other : κ} {record : ρ} (stored : (files.erase key).lookup other = some record) :
    other ≠ key ∧ files.lookup other = some record := by
  by_cases own : other = key
  · subst own
    rw [AList.lookup_erase] at stored
    cases stored
  · rw [AList.lookup_erase_ne own] at stored
    exact ⟨own, stored⟩

theorem readAll_ok {κ ρ : Type} {read : κ → ρ → Except String ρ}
    (same : ∀ key record other, read key record = .ok other → record = other)
    {files : List (Sigma fun _ : κ => ρ)} {records : List ρ}
    (ok : readAll read files = .ok records) : records = files.map (·.2) := by
  induction files generalizing records with
  | nil =>
    cases ok
    rfl
  | cons file files ih =>
    obtain ⟨record, first, ok⟩ := bind_ok.mp ok
    obtain ⟨others, rest, ok⟩ := bind_ok.mp ok
    cases pure_ok.mp ok
    rw [List.map_cons, ← ih rest, same _ _ _ first]

theorem readAll_all {κ ρ : Type} {read : κ → ρ → Except String ρ}
    {files : List (Sigma fun _ : κ => ρ)} (all : ∀ file ∈ files, read file.1 file.2 = .ok file.2) :
    readAll read files = .ok (files.map (·.2)) := by
  induction files with
  | nil => rfl
  | cons file files ih =>
    have rest := ih fun other member => all other (List.mem_cons_of_mem _ member)
    unfold readAll
    rw [all file (by simp), rest]
    rfl

theorem instance_valid_iff {record : InstanceRecord} :
    record.validate platform = .ok () ↔
      record.schema = registryRecordSchema ∧
        validateKey record.deploymentId "deployment id" = .ok () ∧
        validateKey record.instanceAlias "instance alias" = .ok () ∧
        validateIssuer platform record.issuer = .ok () ∧
        checkOptional (validateOidfTenantDomain platform) record.oidfTenantDomain = .ok () ∧
        checkOptional (validateOidfSuiteOrigin platform) record.oidfSuiteOrigin = .ok () ∧
        record.backupBeforeUpdate.validate = .ok () ∧
        checkOptional (validateKey · "controller id") record.controllerId = .ok () ∧
        checkOptional (validateReference · "controller key ref") record.controllerKeyRef =
          .ok () := by
  unfold InstanceRecord.validate
  simp only [bind_ok, check_ok, exists_unit]

/-! ## The inventory -/

/-- What holds of the two directories between operations. -/
structure Consistent (platform : Platform) (store : Store) : Prop where
  hosts : ∀ id host, store.hosts.lookup id = some host →
    readHostRecord platform id host = .ok host
  instances : ∀ id record, store.instances.lookup id = some record →
    readInstanceRecord platform id record = .ok record
  hosted : ∀ id record, store.instances.lookup id = some record →
    ∃ host, store.hosts.lookup record.hostId = some host
  hostAliases : ∀ id id' host host', store.hosts.lookup id = some host →
    store.hosts.lookup id' = some host' → host.hostAlias = host'.hostAlias → id = id'
  instanceAliases : ∀ id id' record record', store.instances.lookup id = some record →
    store.instances.lookup id' = some record' → record.instanceAlias = record'.instanceAlias →
    id = id'

namespace Consistent

variable {store : Store}

theorem hostNamed (consistent : Consistent platform store) {id : Uuid} {host : HostRecord}
    (found : store.hosts.lookup id = some host) : host.hostId = id :=
  (readHostRecord_ok.mp (consistent.hosts id host found)).2.2.2

theorem instanceNamed (consistent : Consistent platform store) {id : String}
    {record : InstanceRecord} (found : store.instances.lookup id = some record) :
    record.deploymentId = id :=
  (readInstanceRecord_ok.mp (consistent.instances id record found)).2.2.2

theorem insertHost (consistent : Consistent platform store) {host : HostRecord}
    (small : platform.hostSize host ≤ maxRecordBytes) (valid : host.validate = .ok ())
    (fresh : ∀ id other, store.hosts.lookup id = some other → id ≠ host.hostId →
      other.hostAlias ≠ host.hostAlias) :
    Consistent platform { store with hosts := store.hosts.insert host.hostId host } := by
  refine ⟨fun id other stored => ?_, consistent.instances, fun id record stored => ?_,
    fun id id' one other stored stored' same => ?_, consistent.instanceAliases⟩
  · rcases lookup_of_insert stored with ⟨rfl, rfl⟩ | ⟨-, before⟩
    · exact readHostRecord_ok.mpr ⟨rfl, small, valid, rfl⟩
    · exact consistent.hosts id other before
  · obtain ⟨other, there⟩ := consistent.hosted id record stored
    by_cases own : record.hostId = host.hostId
    · exact ⟨host, by rw [own, AList.lookup_insert]⟩
    · exact ⟨other, by rwa [AList.lookup_insert_ne own]⟩
  · rcases lookup_of_insert stored with ⟨rfl, rfl⟩ | ⟨away, before⟩
    · rcases lookup_of_insert stored' with ⟨rfl, rfl⟩ | ⟨away', before'⟩
      · rfl
      · exact absurd same.symm (fresh id' other before' away')
    · rcases lookup_of_insert stored' with ⟨rfl, rfl⟩ | ⟨away', before'⟩
      · exact absurd same (fresh id one before away)
      · exact consistent.hostAliases id id' one other before before' same

theorem insertInstance (consistent : Consistent platform store) {record : InstanceRecord}
    (small : platform.instanceSize record ≤ maxRecordBytes)
    (valid : record.validate platform = .ok ())
    (hosted : ∃ host, store.hosts.lookup record.hostId = some host)
    (fresh : ∀ id other, store.instances.lookup id = some other → id ≠ record.deploymentId →
      other.instanceAlias ≠ record.instanceAlias) :
    Consistent platform
      { store with instances := store.instances.insert record.deploymentId record } := by
  refine ⟨consistent.hosts, fun id other stored => ?_, fun id other stored => ?_,
    consistent.hostAliases, fun id id' one other stored stored' same => ?_⟩
  · rcases lookup_of_insert stored with ⟨rfl, rfl⟩ | ⟨-, before⟩
    · exact readInstanceRecord_ok.mpr ⟨rfl, small, valid, rfl⟩
    · exact consistent.instances id other before
  · rcases lookup_of_insert stored with ⟨rfl, rfl⟩ | ⟨-, before⟩
    · exact hosted
    · exact consistent.hosted id other before
  · rcases lookup_of_insert stored with ⟨rfl, rfl⟩ | ⟨away, before⟩
    · rcases lookup_of_insert stored' with ⟨rfl, rfl⟩ | ⟨away', before'⟩
      · rfl
      · exact absurd same.symm (fresh id' other before' away')
    · rcases lookup_of_insert stored' with ⟨rfl, rfl⟩ | ⟨away', before'⟩
      · exact absurd same (fresh id one before away)
      · exact consistent.instanceAliases id id' one other before before' same

theorem eraseInstance (consistent : Consistent platform store) (deploymentId : String) :
    Consistent platform { store with instances := store.instances.erase deploymentId } where
  hosts := consistent.hosts
  instances id record stored := consistent.instances id record (lookup_of_erase stored).2
  hosted id record stored := consistent.hosted id record (lookup_of_erase stored).2
  hostAliases := consistent.hostAliases
  instanceAliases id id' record record' stored stored' same :=
    consistent.instanceAliases id id' record record' (lookup_of_erase stored).2
      (lookup_of_erase stored').2 same

theorem eraseHost (consistent : Consistent platform store) {hostId : Uuid}
    (unused : ∀ id record, store.instances.lookup id = some record → record.hostId ≠ hostId) :
    Consistent platform { store with hosts := store.hosts.erase hostId } where
  hosts id host stored := consistent.hosts id host (lookup_of_erase stored).2
  instances := consistent.instances
  hosted id record stored := by
    obtain ⟨host, there⟩ := consistent.hosted id record stored
    exact ⟨host, by rwa [AList.lookup_erase_ne (unused id record stored)]⟩
  hostAliases id id' host host' stored stored' same :=
    consistent.hostAliases id id' host host' (lookup_of_erase stored).2
      (lookup_of_erase stored').2 same
  instanceAliases := consistent.instanceAliases

end Consistent

/-! ## Programs that look before they write -/

section rules

variable {α β : Type} {e : Surroundings} {s : Store}

/-- The program leaves the store alone, and `R` holds of what it answers. -/
def Looks (p : Action α) (e : Surroundings) (s : Store) (R : α → Prop) : Prop :=
  (p e s).2 = s ∧ ∀ a, (p e s).1 = .ok a → R a

/-- The store is as it was, or the program is done and has made one change. -/
def Writes (s : Store) (W : Store → Prop) (o : Outcome String α) (s' : Store) : Prop :=
  s' = s ∨ (∃ a, o = .ok a) ∧ W s'

theorem looks_pure {R : α → Prop} {a : α} (holds : R a) : Looks (pure a) e s R := by
  refine ⟨rfl, ?_⟩
  intro b same
  cases same
  exact holds

theorem looks_ofExcept (x : Except String α) : Looks (ofExcept x) e s fun a => x = .ok a := by
  cases x with
  | ok a => exact looks_pure rfl
  | error text =>
    refine ⟨rfl, ?_⟩
    intro b same
    cases same

theorem looks_require (p : Prop) [Decidable p] (text : String) :
    Looks (require p text) e s fun _ => p := by
  by_cases holds : p
  · rw [Program.require, if_pos holds]
    exact looks_pure holds
  · rw [Program.require, if_neg holds]
    refine ⟨rfl, ?_⟩
    intro b same
    cases same

theorem looks_expect (found : Option α) (missing : String) :
    Looks (expect found missing) e s fun a => found = some a := by
  cases found with
  | some a => exact looks_pure rfl
  | none =>
    refine ⟨rfl, ?_⟩
    intro b same
    cases same

theorem perform_run (f : Effect) (body : Action α) :
    perform f body e s = match e.fault f with
      | .none => body e s
      | .fail text => (.error text, s)
      | .crash => (.crashed, s) := by
  unfold perform effect
  dsimp only
  cases e.fault f with
  | none => rfl
  | fail text => rfl
  | crash => rfl

theorem looks_perform {R : α → Prop} {f : Effect} {body : Action α} (looks : Looks body e s R) :
    Looks (perform f body) e s R := by
  unfold Looks
  rw [perform_run]
  cases e.fault f with
  | none => exact looks
  | fail text =>
    refine ⟨rfl, ?_⟩
    intro b same
    cases same
  | crash =>
    refine ⟨rfl, ?_⟩
    intro b same
    cases same

theorem looks_perform_works {R : α → Prop} {f : Effect} {body : Action α}
    (looks : Looks body e s R) : Looks (perform f body) e s fun _ => e.fault f = .none := by
  refine ⟨(looks_perform looks).1, fun a done => ?_⟩
  rw [perform_run] at done
  cases works : e.fault f with
  | none => rfl
  | fail text =>
    rw [works] at done
    cases done
  | crash =>
    rw [works] at done
    cases done

theorem looks_and {p : Action α} {R S : α → Prop} (first : Looks p e s R)
    (second : Looks p e s S) : Looks p e s fun a => R a ∧ S a :=
  ⟨first.1, fun a done => ⟨first.2 a done, second.2 a done⟩⟩

theorem looks_bind {p : Action α} {f : α → Action β} {R : α → Prop} {S : β → Prop}
    (first : Looks p e s R) (rest : ∀ a, R a → Looks (f a) e s S) : Looks (p >>= f) e s S := by
  obtain ⟨same, result⟩ := first
  unfold Looks
  rw [run_bind]
  cases run : p e s with
  | mk o s' =>
    rw [run] at same result
    cases o with
    | ok a =>
      rw [show s' = s from same]
      exact rest a (result a rfl)
    | error text =>
      refine ⟨same, ?_⟩
      intro b same
      cases same
    | crashed =>
      refine ⟨same, ?_⟩
      intro b same
      cases same

theorem writes_look {p : Action α} {f : α → Action β} {R : α → Prop} {W : Store → Prop}
    (first : Looks p e s R) (rest : ∀ a, R a → Ensures (f a) e (Writes s W) s) :
    Ensures (p >>= f) e (Writes s W) s := by
  obtain ⟨same, result⟩ := first
  unfold Ensures
  rw [run_bind]
  cases run : p e s with
  | mk o s' =>
    rw [run] at same result
    cases o with
    | ok a =>
      rw [show s' = s from same]
      exact rest a (result a rfl)
    | error text => exact .inl same
    | crashed => exact .inl same

theorem writes_pure {p : Action α} {f : α → β} {W : Store → Prop}
    (first : Ensures p e (Writes s W) s) :
    Ensures (p >>= fun a => pure (f a)) e (Writes s W) s := by
  unfold Ensures at first ⊢
  rw [run_bind]
  cases run : p e s with
  | mk o s' =>
    rw [run] at first
    cases o with
    | ok a =>
      rcases first with same | ⟨-, written⟩
      · exact .inl same
      · exact .inr ⟨⟨f a, rfl⟩, written⟩
    | error text =>
      rcases first with same | ⟨⟨b, done⟩, -⟩
      · exact .inl same
      · cases done
    | crashed =>
      rcases first with same | ⟨⟨b, done⟩, -⟩
      · exact .inl same
      · cases done

theorem writes_none {W : Store → Prop} (a : α) :
    Ensures (pure a : Action α) e (Writes s W) s := .inl rfl

theorem writes_perform {W : Store → Prop} {f : Effect} {change : Store → Store}
    (written : e.fault f = .none → W (change s)) :
    Ensures (perform f (modify change)) e (Writes s W) s := by
  unfold Ensures
  rw [perform_run]
  cases working : e.fault f with
  | none => exact .inr ⟨⟨(), rfl⟩, written working⟩
  | fail text => exact .inl rfl
  | crash => exact .inl rfl

theorem writes_host {W : Store → Prop} (record : HostRecord)
    (written : platform.hostSize record ≤ maxRecordBytes →
      e.fault (.writeHost record.hostId) = .none →
      W { s with hosts := s.hosts.insert record.hostId record }) :
    Ensures (writeHost platform record) e (Writes s W) s :=
  writes_look (looks_require _ _) fun _ small => writes_perform (written small)

theorem writes_instance {W : Store → Prop} (deploymentId : String) (record : InstanceRecord)
    (written : platform.instanceSize record ≤ maxRecordBytes →
      W { s with instances := s.instances.insert deploymentId record }) :
    Ensures (writeInstance platform deploymentId record) e (Writes s W) s :=
  writes_look (looks_require _ _) fun _ small => writes_perform fun _ => written small

theorem looks_acquire : Looks acquire e s fun _ => True :=
  looks_perform (looks_pure trivial)

theorem looks_loadHosts : Looks (loadHosts platform) e s fun hosts =>
    ∀ host, host ∈ hosts ↔ ∃ id, s.hosts.lookup id = some host := by
  refine @looks_bind _ _ _ _ _ _ (fun store => store = s) _ ⟨rfl, fun a same => ?_⟩ ?_
  · cases same
    rfl
  · rintro store rfl
    have read := @looks_ofExcept _ e store (readAll (readHostRecord platform)
      (store.hosts.entries.insertionSort fun a b => a.1.toNat ≤ b.1.toNat))
    refine looks_perform ⟨read.1, fun hosts ok host => ?_⟩
    rw [readAll_ok (fun _ _ _ ok => (readHostRecord_ok.mp ok).1) (read.2 hosts ok)]
    simp only [List.mem_map, List.mem_insertionSort, Sigma.exists, exists_eq_right]
    exact exists_congr fun id => AList.mem_lookup_iff.symm

theorem looks_loadInstances : Looks (loadInstances platform) e s fun instances =>
    ∀ record, record ∈ instances ↔ ∃ id, s.instances.lookup id = some record := by
  refine @looks_bind _ _ _ _ _ _ (fun store => store = s) _ ⟨rfl, fun a same => ?_⟩ ?_
  · cases same
    rfl
  · rintro store rfl
    have read := @looks_ofExcept _ e store (readAll (readInstanceRecord platform)
      (store.instances.entries.insertionSort fun a b => a.1 ++ ".json" ≤ b.1 ++ ".json"))
    refine looks_perform ⟨read.1, fun instances ok record => ?_⟩
    rw [readAll_ok (fun _ _ _ ok => (readInstanceRecord_ok.mp ok).1) (read.2 instances ok)]
    simp only [List.mem_map, List.mem_insertionSort, Sigma.exists, exists_eq_right]
    exact exists_congr fun id => AList.mem_lookup_iff.symm

theorem looks_findHostByAlias (hostAlias : String) :
    Looks (findHostByAlias platform hostAlias) e s fun found =>
      (∀ host, found = some host → host.hostAlias = hostAlias ∧
        ∃ id, s.hosts.lookup id = some host) ∧
      (found = none → ∀ id host, s.hosts.lookup id = some host → host.hostAlias ≠ hostAlias) := by
  refine looks_bind looks_loadHosts fun hosts listed => looks_pure ⟨fun host found => ?_,
    fun missing id host stored same => ?_⟩
  · exact ⟨by simpa using List.find?_some found,
      (listed host).mp (List.mem_of_find?_eq_some found)⟩
  · have other := List.find?_eq_none.mp missing host ((listed host).mpr ⟨id, stored⟩)
    simp [same] at other

theorem looks_findHostByAlias_works {hostAlias : String} :
    Looks (findHostByAlias platform hostAlias) e s fun _ => e.fault .listHosts = .none := by
  refine looks_bind ?_ fun _ works => looks_pure works
  refine @looks_bind _ _ _ _ _ _ (fun store => store = s) _ ⟨rfl, fun a same => ?_⟩ ?_
  · cases same
    rfl
  · rintro store rfl
    exact looks_perform_works (looks_ofExcept _)

theorem looks_findInstanceByAlias (instanceAlias : String) :
    Looks (findInstanceByAlias platform instanceAlias) e s fun found => found = none →
      ∀ id record, s.instances.lookup id = some record → record.instanceAlias ≠ instanceAlias := by
  refine looks_bind looks_loadInstances fun records listed => looks_pure ?_
  intro missing id record stored same
  have other := List.find?_eq_none.mp missing record ((listed record).mpr ⟨id, stored⟩)
  simp [same] at other

theorem readOptional_ok {ρ : Type} {read : ρ → Except String ρ} {stored found : Option ρ}
    (same : ∀ record other, read record = .ok other → record = other)
    (ok : readOptional read stored = .ok found) : found = stored := by
  cases stored with
  | none =>
    cases ok
    rfl
  | some record =>
    have ok : (read record).map some = .ok found := ok
    cases outcome : read record with
    | ok other =>
      rw [outcome] at ok
      cases ok
      rw [same record other outcome]
    | error text =>
      rw [outcome] at ok
      cases ok

theorem looks_findHostById (hostId : Uuid) :
    Looks (findHostById platform hostId) e s fun found => found = s.hosts.lookup hostId := by
  refine @looks_bind _ _ _ _ _ _ (fun store => store = s) _ ⟨rfl, fun a same => ?_⟩ ?_
  · cases same
    rfl
  · rintro store rfl
    have read := @looks_ofExcept _ e store
      (readOptional (readHostRecord platform hostId) (store.hosts.lookup hostId))
    refine looks_perform ⟨read.1, fun found ok => ?_⟩
    exact readOptional_ok (fun _ _ ok => (readHostRecord_ok.mp ok).1) (read.2 found ok)

theorem looks_findInstanceByDeployment (deploymentId : String) :
    Looks (findInstanceByDeployment platform deploymentId) e s fun found =>
      found = s.instances.lookup deploymentId := by
  refine looks_bind (looks_ofExcept _) fun _ _ => ?_
  refine @looks_bind _ _ _ _ _ _ (fun store => store = s) _ ⟨rfl, fun a same => ?_⟩ ?_
  · cases same
    rfl
  · rintro store rfl
    have read := @looks_ofExcept _ e store
      (readOptional (readInstanceRecord platform deploymentId)
        (store.instances.lookup deploymentId))
    refine looks_perform ⟨read.1, fun found ok => ?_⟩
    exact readOptional_ok (fun _ _ ok => (readInstanceRecord_ok.mp ok).1) (read.2 found ok)

end rules

/-! ## What an operation names -/

inductive Op where
  | ensureLocalHost
  | addHost (record : HostRecord)
  | renameInstance (oldAlias newAlias : String)
  | registerInstance (evidence : DiscoveryEvidence) (instanceAlias : Option String)
      (observation : ObservationCache)
  | forgetHost (hostAlias : String) (cascade : Bool)
  | forgetInstance (deploymentId : String)
  | setHostObservation (hostId : Uuid) (observation : ObservationCache)
  | setInstanceObservation (deploymentId : String) (observation : ObservationCache)
  | updateControllerBinding (deploymentId : String) (controllerId keyRef : Option String)
  | setBackupBeforeUpdate (deploymentId : String) (policy : BackupBeforeUpdatePolicy)
  | setOidfConfiguration (deploymentId tenantDomain suiteOrigin : String)
  | relocateInstance (deploymentId : String) (newHostId : Uuid)

def run (platform : Platform) : Op → Action Unit
  | .ensureLocalHost => do
    let _ ← ensureLocalHost platform
    pure ()
  | .addHost record => do
    let _ ← addHost platform record
    pure ()
  | .renameInstance oldAlias newAlias => do
    let _ ← renameInstance platform oldAlias newAlias
    pure ()
  | .registerInstance evidence instanceAlias observation => do
    let _ ← registerInstance platform evidence instanceAlias observation
    pure ()
  | .forgetHost hostAlias cascade => do
    let _ ← forgetHost platform hostAlias cascade
    pure ()
  | .forgetInstance deploymentId => do
    let _ ← forgetInstanceByDeployment platform deploymentId
    pure ()
  | .setHostObservation hostId observation => setHostObservation platform hostId observation
  | .setInstanceObservation deploymentId observation =>
    setInstanceObservation platform deploymentId observation
  | .updateControllerBinding deploymentId controllerId keyRef => do
    let _ ← updateControllerBinding platform deploymentId controllerId keyRef
    pure ()
  | .setBackupBeforeUpdate deploymentId policy => do
    let _ ← setBackupBeforeUpdate platform deploymentId policy
    pure ()
  | .setOidfConfiguration deploymentId tenantDomain suiteOrigin => do
    let _ ← setOidfConfiguration platform deploymentId tenantDomain suiteOrigin
    pure ()
  | .relocateInstance deploymentId newHostId => do
    let _ ← relocateInstance platform deploymentId newHostId
    pure ()

/-- How an operation may change the record of a host: what was stored before and after. -/
def HostNamed : Op → Option HostRecord → Option HostRecord → Prop
  | .ensureLocalHost, before, after => before = none ∧ ∃ id, after = some (HostRecord.newLocal id)
  | .addHost record, before, after => before = none ∧ after = some record
  | .forgetHost hostAlias _, before, after =>
    ∃ host, before = some host ∧ host.hostAlias = hostAlias ∧ after = none
  | .setHostObservation hostId observation, before, after =>
    ∃ host, before = some host ∧ host.hostId = hostId ∧
      after = some { host with lastObservation := some observation }
  | _, _, _ => False

/-- A setter changes the record of its deployment and nothing but its own fields. -/
def Edited (deploymentId : String) (edit : InstanceRecord → InstanceRecord)
    (before after : Option InstanceRecord) : Prop :=
  ∃ record, before = some record ∧ record.deploymentId = deploymentId ∧ after = some (edit record)

def InstanceNamed (store : Store) :
    Op → Option InstanceRecord → Option InstanceRecord → Prop
  | .renameInstance oldAlias newAlias, before, after =>
    ∃ record, before = some record ∧ record.instanceAlias = oldAlias ∧
      after = some { record with instanceAlias := newAlias }
  | .registerInstance evidence instanceAlias observation, before, after =>
    before = none ∧ after = some ⟨registryRecordSchema, evidence.deploymentId,
      instanceAlias.getD evidence.deploymentId, evidence.hostId, evidence.issuer, none, none, none,
      none, .off, some observation⟩
  | .forgetHost hostAlias cascade, before, after =>
    cascade = true ∧ after = none ∧ ∃ record host, before = some record ∧
      store.hosts.lookup record.hostId = some host ∧ host.hostAlias = hostAlias
  | .forgetInstance deploymentId, before, after =>
    ∃ record, before = some record ∧ record.deploymentId = deploymentId ∧ after = none
  | .setInstanceObservation deploymentId observation, before, after =>
    Edited deploymentId (fun record => { record with lastObservation := some observation })
      before after
  | .updateControllerBinding deploymentId controllerId keyRef, before, after =>
    Edited deploymentId (fun record => { record with controllerId, controllerKeyRef := keyRef })
      before after
  | .setBackupBeforeUpdate deploymentId policy, before, after =>
    Edited deploymentId (fun record => { record with backupBeforeUpdate := policy }) before after
  | .setOidfConfiguration deploymentId tenantDomain suiteOrigin, before, after =>
    Edited deploymentId (fun record => { record with
      oidfTenantDomain := some tenantDomain
      oidfSuiteOrigin := some (trimSlashes suiteOrigin) }) before after
  | .relocateInstance deploymentId newHostId, before, after =>
    Edited deploymentId (fun record => { record with
      hostId := newHostId
      lastObservation := none }) before after
  | _, _, _ => False

/-- Every record that differs afterwards is one that the operation names, changed as it says. -/
def Named (op : Op) (s s' : Store) : Prop :=
  (∀ id, s'.hosts.lookup id = s.hosts.lookup id ∨
    HostNamed op (s.hosts.lookup id) (s'.hosts.lookup id)) ∧
  ∀ id, s'.instances.lookup id = s.instances.lookup id ∨
    InstanceNamed s op (s.instances.lookup id) (s'.instances.lookup id)

section named

variable {op : Op} {s : Store}

theorem named_same : Named op s s := ⟨fun _ => .inl rfl, fun _ => .inl rfl⟩

theorem named_insertHost {host : HostRecord}
    (named : HostNamed op (s.hosts.lookup host.hostId) (some host)) :
    Named op s { s with hosts := s.hosts.insert host.hostId host } := by
  refine ⟨fun id => ?_, fun _ => .inl rfl⟩
  by_cases own : id = host.hostId
  · subst own
    rw [AList.lookup_insert]
    exact .inr named
  · exact .inl (AList.lookup_insert_ne own)

theorem named_insertInstance {deploymentId : String} {record : InstanceRecord}
    (named : InstanceNamed s op (s.instances.lookup deploymentId) (some record)) :
    Named op s { s with instances := s.instances.insert deploymentId record } := by
  refine ⟨fun _ => .inl rfl, fun id => ?_⟩
  by_cases own : id = deploymentId
  · subst own
    rw [AList.lookup_insert]
    exact .inr named
  · exact .inl (AList.lookup_insert_ne own)

theorem named_eraseInstance {deploymentId : String}
    (named : InstanceNamed s op (s.instances.lookup deploymentId) none) :
    Named op s { s with instances := s.instances.erase deploymentId } := by
  refine ⟨fun _ => .inl rfl, fun id => ?_⟩
  by_cases own : id = deploymentId
  · subst own
    rw [AList.lookup_erase]
    exact .inr named
  · exact .inl (AList.lookup_erase_ne own)

end named

/-! ## One operation -/

section operations

variable {e : Surroundings} {s : Store}

/-- What an operation makes of a consistent store when it changes it. -/
def Sound (platform : Platform) (op : Op) (s s' : Store) : Prop :=
  Consistent platform s' ∧ Named op s s'

theorem host_small (consistent : Consistent platform s) {id : Uuid} {host : HostRecord}
    (stored : s.hosts.lookup id = some host) : host.validate = .ok () :=
  (readHostRecord_ok.mp (consistent.hosts id host stored)).2.2.1

theorem instance_valid (consistent : Consistent platform s) {id : String}
    {record : InstanceRecord} (stored : s.instances.lookup id = some record) :
    record.validate platform = .ok () :=
  (readInstanceRecord_ok.mp (consistent.instances id record stored)).2.2.1

theorem addHost_sound (consistent : Consistent platform s) (record : HostRecord) :
    Ensures (addHost platform record) e (Writes s (Sound platform (.addHost record) s)) s := by
  refine writes_look (looks_ofExcept _) fun _ valid => ?_
  refine writes_look looks_acquire fun _ _ => ?_
  refine writes_look looks_loadHosts fun hosts listed => ?_
  refine writes_look (looks_require _ _) fun _ aliasFree => ?_
  refine writes_look (looks_require _ _) fun _ idFree => ?_
  refine writes_pure (writes_host record fun small _ => ⟨?_, named_insertHost ⟨?_, rfl⟩⟩)
  · refine consistent.insertHost small valid fun id other stored _ same => aliasFree ?_
    exact List.any_eq_true.mpr ⟨other, (listed other).mpr ⟨id, stored⟩, by simpa using same⟩
  · cases stored : s.hosts.lookup record.hostId with
    | none => rfl
    | some other =>
      refine absurd (List.any_eq_true.mpr ⟨other, (listed other).mpr ⟨_, stored⟩, ?_⟩) idFree
      simpa using consistent.hostNamed stored

theorem renameInstance_sound (consistent : Consistent platform s) (oldAlias newAlias : String) :
    Ensures (renameInstance platform oldAlias newAlias) e
      (Writes s (Sound platform (.renameInstance oldAlias newAlias) s)) s := by
  refine writes_look looks_acquire fun _ _ => ?_
  refine writes_look looks_loadInstances fun records listed => ?_
  refine writes_look (looks_expect _ _) fun record found => ?_
  refine writes_look (looks_require _ _) fun _ free => ?_
  refine writes_look (looks_ofExcept _) fun _ valid => ?_
  have called : record.instanceAlias = oldAlias := by simpa using List.find?_some found
  obtain ⟨id, stored⟩ := (listed record).mp (List.mem_of_find?_eq_some found)
  cases consistent.instanceNamed stored
  refine writes_pure (writes_instance _ _ fun small =>
    ⟨?_, named_insertInstance ⟨record, stored, called, rfl⟩⟩)
  refine consistent.insertInstance small valid (consistent.hosted _ record stored) ?_
  intro id other there away same
  rcases free with unchanged | free
  · rw [unchanged, ← called] at same
    exact away (consistent.instanceAliases _ _ _ _ there stored same)
  · exact free (List.any_eq_true.mpr ⟨other, (listed other).mpr ⟨id, there⟩, by simpa using same⟩)

theorem newInstance_ok {deploymentId instanceAlias issuer : String} {hostId : Uuid}
    {record : InstanceRecord}
    (ok : InstanceRecord.new platform deploymentId instanceAlias hostId issuer = .ok record) :
    record = ⟨registryRecordSchema, deploymentId, instanceAlias, hostId, issuer, none, none, none,
      none, .off, none⟩ ∧ record.validate platform = .ok () := by
  obtain ⟨⟨⟩, valid, same⟩ := bind_ok.mp ok
  cases pure_ok.mp same
  exact ⟨rfl, valid⟩

theorem registerInstance_sound (consistent : Consistent platform s) (evidence : DiscoveryEvidence)
    (instanceAlias : Option String) (observation : ObservationCache) :
    Ensures (registerInstance platform evidence instanceAlias observation) e
      (Writes s (Sound platform (.registerInstance evidence instanceAlias observation) s)) s := by
  refine writes_look (looks_ofExcept _) fun _ _ => ?_
  refine writes_look looks_acquire fun _ _ => ?_
  refine writes_look (looks_findHostById _) fun found located => ?_
  refine writes_look (looks_expect _ _) fun host hosted => ?_
  refine writes_look (looks_require _ _) fun _ _ => ?_
  refine writes_look (looks_findInstanceByDeployment _) fun registered known => ?_
  refine writes_look (looks_require _ _) fun _ new => ?_
  refine writes_look (looks_findInstanceByAlias _) fun taken unused => ?_
  refine writes_look (looks_require _ _) fun _ free => ?_
  refine writes_look (looks_ofExcept _) fun record made => ?_
  obtain ⟨rfl, valid⟩ := newInstance_ok made
  refine writes_pure (writes_instance _ _ fun small =>
    ⟨?_, named_insertInstance ⟨known.symm.trans new, rfl⟩⟩)
  refine consistent.insertInstance small (instance_valid_iff.mpr (instance_valid_iff.mp valid))
    ⟨host, located.symm.trans hosted⟩ fun id other there _ => unused free id other there

theorem forgetInstance_sound (consistent : Consistent platform s) (deploymentId : String) :
    Ensures (forgetInstanceByDeployment platform deploymentId) e
      (Writes s (Sound platform (.forgetInstance deploymentId) s)) s := by
  refine writes_look looks_acquire fun _ _ => ?_
  refine writes_look (looks_findInstanceByDeployment _) fun found known => ?_
  refine writes_look (looks_expect _ _) fun record there => ?_
  have stored : s.instances.lookup deploymentId = some record := known.symm.trans there
  refine writes_pure (writes_perform fun _ => ⟨consistent.eraseInstance _, named_eraseInstance ?_⟩)
  exact ⟨record, stored, consistent.instanceNamed stored, rfl⟩

theorem setHostObservation_sound (consistent : Consistent platform s) (hostId : Uuid)
    (observation : ObservationCache) :
    Ensures (setHostObservation platform hostId observation) e
      (Writes s (Sound platform (.setHostObservation hostId observation) s)) s := by
  refine writes_look looks_acquire fun _ _ => ?_
  refine writes_look (looks_findHostById _) fun found known => ?_
  refine writes_look (looks_expect _ _) fun host there => ?_
  have stored : s.hosts.lookup hostId = some host := known.symm.trans there
  cases consistent.hostNamed stored
  have valid := host_small consistent stored
  refine writes_host _ fun small _ => ⟨?_, named_insertHost ⟨host, stored, rfl, rfl⟩⟩
  refine consistent.insertHost small valid ?_
  intro id other there away same
  exact away (consistent.hostAliases _ _ _ _ there stored same)

/-- A setter whose edit keeps the identity and the selector, and whose result is valid. -/
theorem editInstance_sound (consistent : Consistent platform s) {op : Op}
    {deploymentId missing : String} {edit : InstanceRecord → Action InstanceRecord}
    (edited : InstanceRecord → InstanceRecord)
    (edits : ∀ record, s.instances.lookup deploymentId = some record →
      record.validate platform = .ok () →
      Looks (edit record) e s fun result => result = edited record ∧
        result.validate platform = .ok () ∧ ∃ host, s.hosts.lookup result.hostId = some host)
    (keeps : ∀ record, (edited record).deploymentId = record.deploymentId ∧
      (edited record).instanceAlias = record.instanceAlias)
    (named : ∀ before after, Edited deploymentId edited before after →
      InstanceNamed s op before after) :
    Ensures (editInstance platform deploymentId missing edit) e
      (Writes s (Sound platform op s)) s := by
  refine writes_look looks_acquire fun _ _ => ?_
  refine writes_look (looks_findInstanceByDeployment _) fun found known => ?_
  refine writes_look (looks_expect _ _) fun record there => ?_
  have stored : s.instances.lookup deploymentId = some record := known.symm.trans there
  have identity := consistent.instanceNamed stored
  refine writes_look (edits record stored (instance_valid consistent stored)) ?_
  rintro result ⟨rfl, valid, hosted⟩
  have own : (edited record).deploymentId = deploymentId := (keeps record).1.trans identity
  refine writes_pure (writes_instance _ _ fun small => ⟨?_, named_insertInstance ?_⟩)
  · have inserted := consistent.insertInstance small valid hosted fun id other other_there away
        same => away ?_
    · rwa [own] at inserted
    · rw [own]
      exact consistent.instanceAliases _ _ _ _ other_there stored (same.trans (keeps record).2)
  · exact named _ _ ⟨record, stored, identity, rfl⟩

theorem setInstanceObservation_sound (consistent : Consistent platform s) (deploymentId : String)
    (observation : ObservationCache) :
    Ensures (setInstanceObservation platform deploymentId observation) e
      (Writes s (Sound platform (.setInstanceObservation deploymentId observation) s)) s := by
  refine writes_pure (editInstance_sound consistent
    (fun record => { record with lastObservation := some observation })
    (fun record stored valid => looks_pure ?_) (fun _ => ⟨rfl, rfl⟩) fun _ _ edited => edited)
  have hosted := consistent.hosted _ record stored
  exact ⟨rfl, instance_valid_iff.mpr (instance_valid_iff.mp valid), hosted⟩

theorem updateControllerBinding_sound (consistent : Consistent platform s)
    (deploymentId : String) (controllerId keyRef : Option String) :
    Ensures (updateControllerBinding platform deploymentId controllerId keyRef) e
      (Writes s (Sound platform (.updateControllerBinding deploymentId controllerId keyRef) s))
      s := by
  refine editInstance_sound consistent
    (fun record => { record with controllerId, controllerKeyRef := keyRef })
    (fun record stored valid => ?_) (fun _ => ⟨rfl, rfl⟩) fun _ _ edited => edited
  have hosted := consistent.hosted _ record stored
  refine looks_bind (looks_ofExcept _) fun _ valid => looks_pure ?_
  exact ⟨rfl, valid, hosted⟩

theorem setBackupBeforeUpdate_sound (consistent : Consistent platform s) (deploymentId : String)
    (policy : BackupBeforeUpdatePolicy) :
    Ensures (setBackupBeforeUpdate platform deploymentId policy) e
      (Writes s (Sound platform (.setBackupBeforeUpdate deploymentId policy) s)) s := by
  refine writes_look (looks_ofExcept _) fun _ fits => ?_
  refine editInstance_sound consistent
    (fun record => { record with backupBeforeUpdate := policy })
    (fun record stored valid => looks_pure ?_) (fun _ => ⟨rfl, rfl⟩) fun _ _ edited => edited
  have hosted := consistent.hosted _ record stored
  obtain ⟨schema, id, selector, issuer, domain, origin, -, controller, key⟩ :=
    instance_valid_iff.mp valid
  exact ⟨rfl, instance_valid_iff.mpr
    ⟨schema, id, selector, issuer, domain, origin, fits, controller, key⟩, hosted⟩

/-- The URL library takes a bare origin without its trailing slash, too. -/
def TrimsOrigins (platform : Platform) : Prop :=
  ∀ value, validateOidfSuiteOrigin platform value = .ok () →
    validateOidfSuiteOrigin platform (trimSlashes value) = .ok ()

theorem setOidfConfiguration_sound (trims : TrimsOrigins platform)
    (consistent : Consistent platform s) (deploymentId tenantDomain suiteOrigin : String) :
    Ensures (setOidfConfiguration platform deploymentId tenantDomain suiteOrigin) e
      (Writes s (Sound platform (.setOidfConfiguration deploymentId tenantDomain suiteOrigin) s))
      s := by
  refine writes_look (looks_ofExcept _) fun _ domainFits => ?_
  refine writes_look (looks_ofExcept _) fun _ originFits => ?_
  refine editInstance_sound consistent
    (fun record => { record with
      oidfTenantDomain := some tenantDomain
      oidfSuiteOrigin := some (trimSlashes suiteOrigin) })
    (fun record stored valid => looks_pure ?_) (fun _ => ⟨rfl, rfl⟩) fun _ _ edited => edited
  have hosted := consistent.hosted _ record stored
  obtain ⟨schema, id, selector, issuer, -, -, policy, controller, key⟩ :=
    instance_valid_iff.mp valid
  exact ⟨rfl, instance_valid_iff.mpr
    ⟨schema, id, selector, issuer, domainFits, trims _ originFits, policy, controller, key⟩,
    hosted⟩

theorem relocateInstance_sound (consistent : Consistent platform s) (deploymentId : String)
    (newHostId : Uuid) :
    Ensures (relocateInstance platform deploymentId newHostId) e
      (Writes s (Sound platform (.relocateInstance deploymentId newHostId) s)) s := by
  refine editInstance_sound consistent
    (fun record => { record with hostId := newHostId, lastObservation := none })
    (fun record stored valid => ?_) (fun _ => ⟨rfl, rfl⟩) fun _ _ edited => edited
  refine looks_bind (looks_require _ _) fun _ _ => ?_
  refine looks_bind (looks_findHostById _) fun found located => ?_
  refine looks_bind (looks_expect _ _) fun host hosted => ?_
  refine looks_bind (looks_ofExcept _) fun _ valid => looks_pure ?_
  exact ⟨rfl, valid, host, located.symm.trans hosted⟩

/-! ## The local host -/

def NoLocal (s : Store) : Prop :=
  ∀ id host, s.hosts.lookup id = some host → host.hostAlias ≠ localHostAlias

/-- The record of the local host is written under the identity that the target answers. -/
structure LocalCreated (e : Surroundings) (s s' : Store) : Prop where
  none : NoLocal s
  created : ∃ target, e.target = .ok target ∧
    s' = { s with hosts := s.hosts.insert target.val (HostRecord.newLocal target.val) }

/-- The calls before the write work, and the record fits. -/
structure Creates (platform : Platform) (e : Surroundings) : Prop where
  lock : e.fault .lock = .none
  list : e.fault .listHosts = .none
  hello : e.fault .hello = .none
  written : ∀ target, e.target = .ok target → e.fault (.writeHost target.val) = .none ∧
    platform.hostSize (HostRecord.newLocal target.val) ≤ maxRecordBytes

theorem ensureLocalHost_creates :
    Ensures (ensureLocalHost platform) e
      (Writes s fun s' => LocalCreated e s s' ∧ Creates platform e) s := by
  refine writes_look (@looks_perform_works _ e s (fun _ => True) _ _ (looks_pure trivial))
    fun _ lock => ?_
  refine writes_look (looks_and (looks_findHostByAlias _) looks_findHostByAlias_works)
    fun found known => ?_
  cases found with
  | some host => exact writes_none _
  | none =>
    refine @writes_look _ _ e s localTargetId _
      (fun target => e.target = .ok target ∧ e.fault .hello = .none) _ ?_ ?_
    · refine @looks_bind _ _ e s _ _ (fun surroundings => surroundings = e) _ ⟨rfl, ?_⟩ ?_
      · intro surroundings same
        cases same
        rfl
      · rintro surroundings rfl
        exact looks_and (looks_perform (looks_ofExcept _))
          (looks_perform_works (looks_ofExcept _))
    · rintro target ⟨answered, hello⟩
      refine writes_pure (writes_host _ fun small works =>
        ⟨⟨known.1.2 rfl, target, answered, rfl⟩, lock, known.2, hello, ?_⟩)
      intro other same
      cases answered.symm.trans same
      exact ⟨works, small⟩

theorem newLocal_valid (target : TargetId) : (HostRecord.newLocal target.val).validate = .ok () := by
  have version := target.property
  unfold HostRecord.validate HostRecord.newLocal
  simp only [bind_ok, check_ok, exists_unit, validateKey, StateDocument.validateIdentifier]
  exact ⟨trivial, by decide, version, trivial, trivial⟩

theorem localCreated_consistent {s' : Store} (consistent : Consistent platform s)
    (created : LocalCreated e s s') (creates : Creates platform e) : Consistent platform s' := by
  obtain ⟨missing, target, answered, rfl⟩ := created
  exact consistent.insertHost (creates.written target answered).2 (newLocal_valid target) fun id host stored _ =>
    missing id host stored

/-- The new record of the local host takes the place of another one. -/
def Shadows (e : Surroundings) (s : Store) : Prop :=
  NoLocal s ∧ ∃ target, e.target = .ok target ∧ (s.hosts.lookup target.val).isSome

theorem localCreated_named {s' : Store} (created : LocalCreated e s s') :
    Named .ensureLocalHost s s' ↔ ¬ Shadows e s := by
  obtain ⟨missing, target, answered, rfl⟩ := created
  constructor
  · rintro named ⟨-, other, same, stored⟩
    cases answered.symm.trans same
    obtain ⟨host, stored⟩ := Option.isSome_iff_exists.mp stored
    rcases named.1 target.val with same | ⟨free, -⟩
    · rw [AList.lookup_insert, stored] at same
      cases same
      exact missing _ _ stored rfl
    · rw [stored] at free
      cases free
  · intro clear
    refine @named_insertHost _ s (HostRecord.newLocal target.val) ⟨?_, target.val, rfl⟩
    cases stored : s.hosts.lookup target.val with
    | none => exact stored
    | some host => exact absurd ⟨missing, target, answered, by rw [stored]; rfl⟩ clear

end operations

/-! ## Forgetting a host -/

section forgetting

variable {e : Surroundings} {s : Store}

/-- Some of the listed instances are gone. -/
structure Cleared (records : List InstanceRecord) (s s' : Store) : Prop where
  hosts : s'.hosts = s.hosts
  instances : ∀ id, s'.instances.lookup id = s.instances.lookup id ∨
    (s'.instances.lookup id = none ∧ ∃ record ∈ records, record.deploymentId = id)

theorem removeInstances_ensures (records : List InstanceRecord) :
    Ensures (removeInstances records) e (fun o s' => Cleared records s s' ∧
      (∀ u, o = .ok u → ∀ record ∈ records, s'.instances.lookup record.deploymentId = none) ∧
      ((∀ f, e.fault f = .none) → ∃ u, o = .ok u)) s := by
  induction records generalizing s with
  | nil =>
    refine ⟨⟨rfl, fun _ => .inl rfl⟩, fun _ _ record member => ?_, fun _ => ⟨(), rfl⟩⟩
    cases member
  | cons record records ih =>
    unfold removeInstances removeInstance Ensures
    rw [run_bind, perform_run]
    cases faulty : e.fault (.removeInstance record.deploymentId) with
    | fail text =>
      refine ⟨⟨rfl, fun _ => .inl rfl⟩, fun _ done => ?_, fun quiet => ?_⟩
      · cases done
      · rw [quiet] at faulty
        cases faulty
    | crash =>
      refine ⟨⟨rfl, fun _ => .inl rfl⟩, fun _ done => ?_, fun quiet => ?_⟩
      · cases done
      · rw [quiet] at faulty
        cases faulty
    | none =>
      obtain ⟨cleared, gone, completes⟩ := @ih
        { s with instances := s.instances.erase record.deploymentId }
      have kept (id : String) := cleared.instances id
      refine ⟨⟨cleared.hosts, fun id => ?_⟩, fun u done other member => ?_, completes⟩
      · by_cases own : id = record.deploymentId
        · subst own
          right
          rcases kept record.deploymentId with same | ⟨gone, -⟩
          · exact ⟨same.trans (AList.lookup_erase _ _), record, by simp, rfl⟩
          · exact ⟨gone, record, by simp, rfl⟩
        · rcases kept id with same | ⟨gone, other, member, named⟩
          · exact .inl (same.trans (AList.lookup_erase_ne own))
          · exact .inr ⟨gone, other, List.mem_cons_of_mem _ member, named⟩
      · rcases List.mem_cons.mp member with rfl | member
        · rcases kept other.deploymentId with same | ⟨gone, -⟩
          · exact same.trans (AList.lookup_erase _ _)
          · exact gone
        · exact gone u done other member

theorem cleared_consistent {records : List InstanceRecord} {s' : Store}
    (consistent : Consistent platform s) (cleared : Cleared records s s') :
    Consistent platform s' := by
  have before {id : String} {record : InstanceRecord}
      (stored : s'.instances.lookup id = some record) :
      s.instances.lookup id = some record := by
    rcases cleared.instances id with same | ⟨gone, -⟩
    · rwa [same] at stored
    · rw [gone] at stored
      cases stored
  refine ⟨?_, fun id record stored => consistent.instances id record (before stored),
    fun id record stored => ?_, ?_, fun id id' record record' stored stored' same =>
      consistent.instanceAliases id id' record record' (before stored) (before stored') same⟩
  · rw [cleared.hosts]
    exact consistent.hosts
  · rw [cleared.hosts]
    exact consistent.hosted id record (before stored)
  · rw [cleared.hosts]
    exact consistent.hostAliases

/-- What holds of an operation that was cut off, refused or done. -/
structure StepSound {α : Type} (platform : Platform) (op : Op) (e : Surroundings) (s : Store)
    (o : Outcome String α) (s' : Store) : Prop where
  consistent : Consistent platform s'
  refused : (∀ f, e.fault f = .none) → ∀ text, o = .error text → s' = s
  named : ∀ a, o = .ok a → Named op s s'

theorem stepSound_of_writes {α : Type} {op : Op} {o : Outcome String α} {s' : Store}
    (consistent : Consistent platform s) (writes : Writes s (Sound platform op s) o s') :
    StepSound platform op e s o s' := by
  rcases writes with rfl | ⟨⟨a, rfl⟩, sound⟩
  · exact ⟨consistent, fun _ _ _ => rfl, fun _ _ => named_same⟩
  · refine ⟨sound.1, fun _ text failed => ?_, fun _ _ => sound.2⟩
    cases failed

theorem stepSound_discard {α : Type} {p : Action α} {op : Op}
    (sound : Ensures p e (StepSound platform op e s) s) :
    Ensures (p >>= fun _ => pure ()) e (StepSound platform op e s) s := by
  unfold Ensures at sound ⊢
  rw [run_bind]
  cases run : p e s with
  | mk o s' =>
    rw [run] at sound
    cases o with
    | ok a =>
      refine ⟨sound.consistent, fun _ text failed => ?_, fun _ _ => sound.named a rfl⟩
      cases failed
    | error text =>
      refine ⟨sound.consistent, fun quiet _ _ => sound.refused quiet text rfl, fun _ done => ?_⟩
      cases done
    | crashed =>
      refine ⟨sound.consistent, fun _ _ failed => ?_, fun _ done => ?_⟩
      · cases failed
      · cases done

theorem looks_then {α β : Type} {p : Action α} {f : α → Action β} {R : α → Prop} {op : Op}
    (consistent : Consistent platform s) (first : Looks p e s R)
    (rest : ∀ a, R a → Ensures (f a) e (StepSound platform op e s) s) :
    Ensures (p >>= f) e (StepSound platform op e s) s := by
  obtain ⟨same, result⟩ := first
  have stays (o : Outcome String β) (failed : ∀ b, o ≠ .ok b) : StepSound platform op e s o s :=
    ⟨consistent, fun _ _ _ => rfl, fun b done => absurd done (failed b)⟩
  unfold Ensures
  rw [run_bind]
  cases run : p e s with
  | mk o s' =>
    rw [run] at same result
    cases show s' = s from same
    cases o with
    | ok a => exact rest a (result a rfl)
    | error text => exact stays _ (by simp)
    | crashed => exact stays _ (by simp)

/-- The referencing instances first, then the host. -/
theorem removals_sound (consistent : Consistent platform s) {host : HostRecord}
    {hostAlias : String} {cascade : Bool} {records : List InstanceRecord}
    (stored : s.hosts.lookup host.hostId = some host) (called : host.hostAlias = hostAlias)
    (listed : ∀ record, record ∈ records ↔
      (∃ id, s.instances.lookup id = some record) ∧ record.hostId = host.hostId)
    (allowed : records = [] ∨ cascade = true) :
    Ensures (do
      removeInstances records
      removeHost host.hostId
      pure (host, records) : Action (HostRecord × List InstanceRecord)) e
      (StepSound platform (.forgetHost hostAlias cascade) e s) s := by
  have removal := @removeInstances_ensures e s records
  unfold Ensures at removal ⊢
  rw [run_bind]
  cases removed : removeInstances records e s with
  | mk o s₁ =>
    rw [removed] at removal
    obtain ⟨cleared, gone, completes⟩ := removal
    have consistent₁ := cleared_consistent consistent cleared
    have forgotten (id : String) : s₁.instances.lookup id = s.instances.lookup id ∨
        InstanceNamed s (.forgetHost hostAlias cascade) (s.instances.lookup id)
          (s₁.instances.lookup id) := by
      rcases cleared.instances id with same | ⟨none, record, member, named⟩
      · exact .inl same
      · obtain ⟨⟨key, there⟩, own⟩ := (listed record).mp member
        cases (consistent.instanceNamed there).symm.trans named
        refine .inr ⟨?_, none, record, host, there, by rwa [own], called⟩
        exact allowed.resolve_left fun empty => by simp [empty] at member
    cases o with
    | error text =>
      refine ⟨consistent₁, fun quiet _ _ => ?_, fun _ done => ?_⟩
      · obtain ⟨u, done⟩ := completes quiet
        cases done
      · cases done
    | crashed =>
      refine ⟨consistent₁, fun _ _ failed => ?_, fun _ done => ?_⟩
      · cases failed
      · cases done
    | ok u =>
      have unused (id : String) (record : InstanceRecord)
          (there : s₁.instances.lookup id = some record) : record.hostId ≠ host.hostId := by
        intro own
        have before : s.instances.lookup id = some record := by
          rcases cleared.instances id with same | ⟨none, -⟩
          · rwa [same] at there
          · rw [none] at there
            cases there
        have missing := gone u rfl record ((listed record).mpr ⟨⟨id, before⟩, own⟩)
        rw [consistent.instanceNamed before, there] at missing
        cases missing
      show StepSound platform _ e s ((removeHost host.hostId >>= fun _ =>
        pure (host, records)) e s₁).1 ((removeHost host.hostId >>= fun _ =>
        pure (host, records)) e s₁).2
      unfold removeHost
      rw [run_bind, perform_run]
      cases faulty : e.fault (.removeHost host.hostId) with
      | fail text =>
        refine ⟨consistent₁, fun quiet => ?_, fun _ done => ?_⟩
        · rw [quiet] at faulty
          cases faulty
        · cases done
      | crash =>
        refine ⟨consistent₁, fun _ _ failed => ?_, fun _ done => ?_⟩
        · cases failed
        · cases done
      | none =>
        refine ⟨consistent₁.eraseHost unused, fun _ _ failed => ?_,
          fun _ _ => ⟨fun id => ?_, forgotten⟩⟩
        · cases failed
        · show (s₁.hosts.erase host.hostId).lookup id = _ ∨ HostNamed _ _
            ((s₁.hosts.erase host.hostId).lookup id)
          rw [cleared.hosts]
          by_cases own : id = host.hostId
          · subst own
            rw [AList.lookup_erase]
            exact .inr ⟨host, stored, called, rfl⟩
          · exact .inl (AList.lookup_erase_ne own)

theorem forgetHost_sound (consistent : Consistent platform s) (hostAlias : String)
    (cascade : Bool) :
    Ensures (forgetHost platform hostAlias cascade) e
      (StepSound platform (.forgetHost hostAlias cascade) e s) s := by
  refine looks_then consistent looks_acquire fun _ _ => ?_
  refine looks_then consistent (looks_findHostByAlias _) fun found known => ?_
  refine looks_then consistent (looks_expect _ _) fun host hosted => ?_
  refine looks_then consistent (looks_require _ _) fun _ _ => ?_
  refine looks_then consistent looks_loadInstances fun records listed => ?_
  refine looks_then consistent (looks_require _ _) fun _ allowed => ?_
  obtain ⟨called, id, stored⟩ := known.1 host hosted
  cases consistent.hostNamed stored
  refine removals_sound consistent stored called (fun record => ?_) allowed
  rw [List.mem_filter, listed record, decide_eq_true_eq]

end forgetting

/-! ## Every run -/

section runs

/-- The store of a process, however it ended: the operations of all processes follow one
another, as each holds the lock of the store from its first read to its last write. -/
inductive Reached (platform : Platform) : Store → Prop where
  | empty : Reached platform ⟨∅, ∅⟩
  | step {s : Store} (before : Reached platform s) (op : Op) (e : Surroundings) :
    Reached platform (run platform op e s).2

theorem consistent_empty : Consistent platform ⟨∅, ∅⟩ where
  hosts id host stored := by simp at stored
  instances id record stored := by simp at stored
  hosted id record stored := by simp at stored
  hostAliases id id' host host' stored := by simp at stored
  instanceAliases id id' record record' stored := by simp at stored

theorem run_sound {s : Store} {e : Surroundings} (trims : TrimsOrigins platform)
    (consistent : Consistent platform s) (op : Op) (other : op ≠ .ensureLocalHost) :
    Ensures (run platform op) e (StepSound platform op e s) s := by
  have written {α : Type} {p : Action α} (writes : Ensures p e (Writes s (Sound platform op s)) s) :
      Ensures p e (StepSound platform op e s) s :=
    writes.mono fun o s' done => stepSound_of_writes consistent done
  cases op with
  | ensureLocalHost => exact absurd rfl other
  | addHost record => exact stepSound_discard (written (addHost_sound consistent record))
  | renameInstance oldAlias newAlias =>
    exact stepSound_discard (written (renameInstance_sound consistent oldAlias newAlias))
  | registerInstance evidence instanceAlias observation =>
    exact stepSound_discard
      (written (registerInstance_sound consistent evidence instanceAlias observation))
  | forgetHost hostAlias cascade =>
    exact stepSound_discard (forgetHost_sound consistent hostAlias cascade)
  | forgetInstance deploymentId =>
    exact stepSound_discard (written (forgetInstance_sound consistent deploymentId))
  | setHostObservation hostId observation =>
    exact written (setHostObservation_sound consistent hostId observation)
  | setInstanceObservation deploymentId observation =>
    exact written (setInstanceObservation_sound consistent deploymentId observation)
  | updateControllerBinding deploymentId controllerId keyRef =>
    exact stepSound_discard
      (written (updateControllerBinding_sound consistent deploymentId controllerId keyRef))
  | setBackupBeforeUpdate deploymentId policy =>
    exact stepSound_discard (written (setBackupBeforeUpdate_sound consistent deploymentId policy))
  | setOidfConfiguration deploymentId tenantDomain suiteOrigin =>
    exact stepSound_discard (written
      (setOidfConfiguration_sound trims consistent deploymentId tenantDomain suiteOrigin))
  | relocateInstance deploymentId newHostId =>
    exact stepSound_discard (written (relocateInstance_sound consistent deploymentId newHostId))

/-- The call that creates the local host reaches its write, and the target answers an identity
under which another record stands. -/
def Overwrites (platform : Platform) (e : Surroundings) (s : Store) : Prop :=
  Shadows e s ∧ Creates platform e

theorem ensureLocalHost_overwrites {s : Store} {e : Surroundings}
    (consistent : Consistent platform s) (overwrites : Overwrites platform e s) :
    ∃ s', run platform .ensureLocalHost e s = (.ok (), s') ∧ LocalCreated e s s' := by
  obtain ⟨⟨missing, target, answered, -⟩, ⟨lock, list, hello, written⟩⟩ := overwrites
  obtain ⟨works, small⟩ := written target answered
  have all : readAll (readHostRecord platform)
      (s.hosts.entries.insertionSort fun a b => a.1.toNat ≤ b.1.toNat) =
      .ok ((s.hosts.entries.insertionSort fun a b => a.1.toNat ≤ b.1.toNat).map (·.2)) := by
    refine readAll_all fun file member => consistent.hosts _ _ (AList.mem_lookup_iff.mpr ?_)
    exact (List.mem_insertionSort _).mp member
  have absent : ((s.hosts.entries.insertionSort fun a b => a.1.toNat ≤ b.1.toNat).map (·.2)).find?
      (·.hostAlias = localHostAlias) = none := by
    refine List.find?_eq_none.mpr fun host member named => ?_
    obtain ⟨⟨id, host⟩, sorted, rfl⟩ := List.mem_map.mp member
    exact missing id host (AList.mem_lookup_iff.mpr ((List.mem_insertionSort _).mp sorted))
      (of_decide_eq_true named)
  refine ⟨_, ?_, missing, target, answered, rfl⟩
  have acquired : acquire e s = (.ok (), s) := by
    unfold acquire
    rw [perform_run, lock]
    rfl
  have loaded : loadHosts platform e s =
      (.ok ((s.hosts.entries.insertionSort fun a b => a.1.toNat ≤ b.1.toNat).map (·.2)), s) := by
    unfold loadHosts
    rw [run_bind, run_get]
    dsimp only
    rw [perform_run, list, all]
    rfl
  have found : findHostByAlias platform localHostAlias e s = (.ok none, s) := by
    unfold findHostByAlias
    rw [run_bind_ok loaded, absent]
    rfl
  have identified : localTargetId e s = (.ok target, s) := by
    unfold localTargetId
    rw [run_bind, run_environment]
    dsimp only
    rw [perform_run, hello, answered]
    rfl
  have wrote : writeHost platform (HostRecord.newLocal target.val) e s =
      (.ok (), { s with
        hosts := s.hosts.insert target.val (HostRecord.newLocal target.val) }) := by
    unfold writeHost
    rw [run_bind, run_require, if_pos small]
    dsimp only
    rw [perform_run, show (HostRecord.newLocal target.val).hostId = target.val from rfl, works]
    rfl
  have made : ensureLocalHost platform e s = (.ok (HostRecord.newLocal target.val), { s with
      hosts := s.hosts.insert target.val (HostRecord.newLocal target.val) }) := by
    unfold ensureLocalHost
    rw [run_bind_ok acquired, run_bind_ok found]
    dsimp only
    rw [run_bind_ok identified]
    exact run_bind_ok wrote
  exact run_bind_ok made

theorem local_sound_iff {s : Store} {e : Surroundings} (consistent : Consistent platform s) :
    Ensures (run platform .ensureLocalHost) e (StepSound platform .ensureLocalHost e s) s ↔
      ¬ Overwrites platform e s := by
  constructor
  · intro sound overwrites
    obtain ⟨s', done, created⟩ := ensureLocalHost_overwrites consistent overwrites
    unfold Ensures at sound
    rw [done] at sound
    exact (localCreated_named created).mp (sound.named () rfl) overwrites.1
  · intro clear
    refine stepSound_discard (ensureLocalHost_creates.mono fun o s' done => ?_)
    rcases done with rfl | ⟨⟨host, rfl⟩, created, creates⟩
    · exact ⟨consistent, fun _ _ _ => rfl, fun _ _ => named_same⟩
    · refine ⟨localCreated_consistent consistent created creates, fun _ _ failed => ?_, ?_⟩
      · cases failed
      · intro _ _
        exact (localCreated_named created).mpr fun shadows => clear ⟨shadows, creates⟩

theorem local_consistent {s : Store} {e : Surroundings} (consistent : Consistent platform s) :
    Consistent platform (run platform .ensureLocalHost e s).2 := by
  have kept : Ensures (ensureLocalHost platform) e (fun _ s' => Consistent platform s') s := by
    refine ensureLocalHost_creates.mono fun o s' done => ?_
    rcases done with rfl | ⟨-, created, creates⟩
    · exact consistent
    · exact localCreated_consistent consistent created creates
  unfold Ensures at kept
  show Consistent platform ((ensureLocalHost platform >>= fun _ => pure ()) e s).2
  rw [run_bind]
  cases done : ensureLocalHost platform e s with
  | mk o s' =>
    rw [done] at kept
    cases o with
    | ok host => exact kept
    | error text => exact kept
    | crashed => exact kept

theorem consistent_reached {s : Store} (trims : TrimsOrigins platform)
    (reached : Reached platform s) : Consistent platform s := by
  induction reached with
  | empty => exact consistent_empty
  | step before op e ih =>
    by_cases isLocal : op = .ensureLocalHost
    · cases isLocal
      exact local_consistent ih
    · exact (run_sound trims ih op isLocal).consistent

/-- Identities and selectors are unique, every instance names a stored host, and every record
reads back. -/
structure Inventory (platform : Platform) (s : Store) : Prop extends Consistent platform s where
  hostIds : ∀ id id' host host', s.hosts.lookup id = some host →
    s.hosts.lookup id' = some host' → host.hostId = host'.hostId → id = id'
  deploymentIds : ∀ id id' record record', s.instances.lookup id = some record →
    s.instances.lookup id' = some record' → record.deploymentId = record'.deploymentId → id = id'

theorem inventory_reached {s : Store} (trims : TrimsOrigins platform)
    (reached : Reached platform s) : Inventory platform s := by
  have consistent := consistent_reached trims reached
  refine ⟨consistent, fun id id' host host' stored stored' same => ?_,
    fun id id' record record' stored stored' same => ?_⟩
  · rwa [consistent.hostNamed stored, consistent.hostNamed stored'] at same
  · rwa [consistent.instanceNamed stored, consistent.instanceNamed stored'] at same

/-- Every store that is reached is an inventory, and the next operation keeps to what it names
unless it creates the local host over another record. -/
theorem registry_inventory_iff {s : Store} (trims : TrimsOrigins platform)
    (reached : Reached platform s) (op : Op) (e : Surroundings) :
    Inventory platform s ∧
      (StepSound platform op e s (run platform op e s).1 (run platform op e s).2 ↔
        ¬ (op = .ensureLocalHost ∧ Overwrites platform e s)) := by
  have consistent := consistent_reached trims reached
  refine ⟨inventory_reached trims reached, ?_⟩
  by_cases isLocal : op = .ensureLocalHost
  · cases isLocal
    rw [show (¬ (Op.ensureLocalHost = .ensureLocalHost ∧ Overwrites platform e s)) ↔
      ¬ Overwrites platform e s by simp]
    exact local_sound_iff consistent
  · exact iff_of_true (run_sound trims consistent op isLocal) fun overwrites =>
      isLocal overwrites.1

/-- Knows two origins and no host names. -/
def examplePlatform : Platform where
  parseUrl value :=
    if value ∈ ["https://auth.example.com", "https://auth.example.com/"] then
      some ⟨false, "https", some "auth.example.com", "", none, "/", none, none⟩
    else none
  parseHost _ := none
  hostSize _ := 512
  instanceSize _ := 512

def exampleTarget : TargetId := ⟨7 <<< 76, by decide⟩

/-- The alias of an SSH connection to the control machine itself. -/
def exampleLoopback : HostRecord :=
  ⟨3, exampleTarget.val, "loopback", .ssh, some "loopback", .direct, none⟩

def exampleSurroundings : Surroundings := ⟨fun _ => .none, .ok exampleTarget⟩

def exampleStore : Store := (run examplePlatform (.addHost exampleLoopback) exampleSurroundings
  ⟨∅, ∅⟩).2

def exampleEvidence : DiscoveryEvidence :=
  ⟨1, "instance-discovery-v1", exampleTarget.val, "loopback", .ssh, .ok exampleTarget, "alpha",
    "https://auth.example.com"⟩

theorem exampleStore_reached : Reached examplePlatform exampleStore :=
  .step .empty (.addHost exampleLoopback) exampleSurroundings

theorem examplePlatform_trims : TrimsOrigins examplePlatform := by
  intro value valid
  by_cases plain : value = "https://auth.example.com"
  · subst plain
    decide
  · by_cases slash : value = "https://auth.example.com/"
    · subst slash
      decide
    · simp [validateOidfSuiteOrigin, examplePlatform, plain, slash] at valid

/-- An instance of the host that was added is registered. -/
theorem registered_instance_sound :
    Inventory examplePlatform exampleStore ∧
      StepSound examplePlatform
        (.registerInstance exampleEvidence none ⟨0, true, ""⟩) exampleSurroundings exampleStore
        (run examplePlatform (.registerInstance exampleEvidence none ⟨0, true, ""⟩)
          exampleSurroundings exampleStore).1
        (run examplePlatform (.registerInstance exampleEvidence none ⟨0, true, ""⟩)
          exampleSurroundings exampleStore).2 := by
  obtain ⟨inventory, sound⟩ := registry_inventory_iff examplePlatform_trims exampleStore_reached
    (.registerInstance exampleEvidence none ⟨0, true, ""⟩) exampleSurroundings
  refine ⟨inventory, sound.mpr ?_⟩
  rintro ⟨other, -⟩
  cases other

/-- The local host is created over the record of the SSH alias. -/
theorem local_host_replaces_alias :
    ¬ ∀ s op e, Reached examplePlatform s →
      StepSound examplePlatform op e s (run examplePlatform op e s).1
        (run examplePlatform op e s).2 := by
  intro sound
  have named := (sound exampleStore .ensureLocalHost exampleSurroundings
    exampleStore_reached).named () (by decide)
  have before : exampleStore.hosts.lookup exampleTarget.val = some exampleLoopback := by
    decide
  have after : (run examplePlatform .ensureLocalHost exampleSurroundings
      exampleStore).2.hosts.lookup exampleTarget.val =
        some (HostRecord.newLocal exampleTarget.val) := by decide
  rcases named.1 exampleTarget.val with same | ⟨free, -⟩
  · rw [before, after] at same
    exact absurd same (by decide)
  · rw [before] at free
    cases free

end runs

end NazoAuthCtl.RegistryInventory
