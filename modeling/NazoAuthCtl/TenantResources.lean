import NazoAuthCtl.Materializer

/-!
# Tenant resources and their public ids

The manifest of a prepared run lists the identities of its entries, and an accepted result of
Apply gives a public id to each user and each client among them, which finalisation binds.
-/

set_option autoImplicit false
set_option linter.all false

namespace NazoAuthCtl.TenantResources

open Checks MatrixReferences MatrixDescriptors MatrixTemplates Materializer

section Manifest

variable {library : Library} {protocol : Protocol} {prepared : PreparedMaterialization}

def entryKey (entry : ManifestEntry) : TenantResourceKind × String :=
  (entry.kind, entry.resourceId)

def resourceKey (resource : TenantResourceManifestResource) : TenantResourceKind × String :=
  (resource.kind, resource.resourceId)

def identityKey (identity : TenantResourceIdentity) : TenantResourceKind × String :=
  (identity.kind, identity.resourceId)

theorem pushed_keys {total : ℕ} {entries : List ManifestEntry}
    {resources : List TenantResourceManifestResource}
    (pushed : pushManifestResources library total entries = .ok resources) :
    resources.map resourceKey = entries.map entryKey := by
  induction entries generalizing total resources with
  | nil =>
    cases pushed
    rfl
  | cons entry rest hypothesis =>
    obtain ⟨⟨resource, after⟩, first, pushed⟩ := bind_ok.mp pushed
    obtain ⟨others, later, pushed⟩ := bind_ok.mp pushed
    cases pushed
    obtain ⟨_, _, first⟩ := bind_ok.mp first
    obtain ⟨_, _, first⟩ := bind_ok.mp first
    obtain ⟨_, _, first⟩ := bind_ok.mp first
    obtain ⟨_, _, first⟩ := bind_ok.mp first
    obtain ⟨_, _, first⟩ := bind_ok.mp first
    cases first
    rw [List.map_cons, List.map_cons, hypothesis later]
    rfl

/-- The entries of a prepared run. -/
def runEntries (library : Library) (protocol : Protocol) (prepared : PreparedMaterialization)
    (username : String) : List ManifestEntry :=
  manifestEntries library protocol prepared (runNamespaceSuffix library prepared.requestJti)
    username

/-- A manifest has the identities of the entries, in its own order. -/
theorem manifest_keys {manifest : TenantResourceManifest}
    (listed : tenantResourceManifest library protocol prepared prepared.requestJti =
      .ok manifest) :
    ∃ username, (manifest.identities.map identityKey).Perm
      ((runEntries library protocol prepared username).map entryKey) := by
  obtain ⟨_, _, listed⟩ := bind_ok.mp listed
  cases parts : splitOnce '@' prepared.applicantEmail with
  | none =>
    rw [parts] at listed
    cases listed
  | some pair =>
    rw [parts] at listed
    obtain ⟨resources, pushed, listed⟩ := bind_ok.mp listed
    obtain ⟨_, _, listed⟩ := bind_ok.mp listed
    split at listed
    · cases listed
    · cases listed
      refine ⟨pair.1, ?_⟩
      rw [runEntries, ← pushed_keys pushed, List.map_map]
      exact (List.perm_insertionSort _ resources).map resourceKey

def runUserId (library : Library) (prepared : PreparedMaterialization) : String :=
  runScopedResourceId library "user" "applicant" (runNamespaceSuffix library prepared.requestJti)

def runClientId (library : Library) (prepared : PreparedMaterialization) (logical : String) :
    String :=
  runScopedResourceId library "oauth-client" logical
    (runNamespaceSuffix library prepared.requestJti)

theorem user_listed (username : String) :
    (TenantResourceKind.user, runUserId library prepared) ∈
      (runEntries library protocol prepared username).map entryKey := by
  rw [runEntries, manifestEntries, List.map_cons]
  exact List.mem_cons_self

theorem client_listed (username : String) {entry : String × PreparedClient}
    (inside : entry ∈ prepared.clients) :
    (TenantResourceKind.oauthClient, runClientId library prepared entry.1) ∈
      (runEntries library protocol prepared username).map entryKey := by
  rw [runEntries, manifestEntries, List.map_cons, List.map_append, List.map_append]
  refine List.mem_cons_of_mem _ (List.mem_append_left _ (List.mem_append_left _ ?_))
  rw [List.map_flatMap, List.mem_flatMap]
  refine ⟨entry, inside, ?_⟩
  rw [clientEntries, List.map_cons]
  exact List.mem_cons_self

end Manifest

/-! ## Accepted results -/

section Results

variable {library : Library} {protocol : Protocol} {prepared : PreparedMaterialization}
  {manifest : TenantResourceManifest} {output : TenantResourceApplyOutput}

theorem checkMappings_each {before mappings : List TenantResourceMapping}
    (passed : checkEach (checkMapping protocol) before mappings = .ok ()) :
    ∀ mapping ∈ mappings, ∃ before, checkMapping protocol before mapping = .ok () := by
  induction mappings generalizing before with
  | nil =>
    intro mapping inside
    cases inside
  | cons first rest hypothesis =>
    obtain ⟨_, valid, passed⟩ := bind_ok.mp passed
    intro mapping inside
    rcases List.mem_cons.mp inside with rfl | later
    · exact ⟨before, valid⟩
    · exact hypothesis passed mapping later

/-- What an accepted result is known to give. -/
structure Given (protocol : Protocol) (identities : List TenantResourceIdentity)
    (output : TenantResourceApplyOutput) : Prop where
  delta : output.deltaResources = identities
  mappings : checkEach (checkMapping protocol) [] output.resourceMappings = .ok ()
  covered : ∀ key ∈ mapped identities, key ∈ output.resourceMappings.map mappingKey
  only : ∀ key ∈ output.resourceMappings.map mappingKey, key ∈ mapped identities

theorem result_given {result : ControlResult} {operation hash kid : String}
    {active : List TenantResourceIdentity}
    (accepted : TenantResourceApplyOutput.fromControlResult protocol result operation hash kid
      manifest active = .ok output) : Given protocol manifest.identities output := by
  unfold TenantResourceApplyOutput.fromControlResult at accepted
  obtain ⟨_, _, accepted⟩ := bind_ok.mp accepted
  obtain ⟨_, _, accepted⟩ := bind_ok.mp accepted
  obtain ⟨_, _, accepted⟩ := bind_ok.mp accepted
  obtain ⟨_, _, accepted⟩ := bind_ok.mp accepted
  split at accepted
  · cases accepted
  · next data _ =>
    obtain ⟨delta, collected, accepted⟩ := bind_ok.mp accepted
    obtain ⟨_, _, accepted⟩ := bind_ok.mp accepted
    obtain ⟨_, _, accepted⟩ := bind_ok.mp accepted
    obtain ⟨_, _, accepted⟩ := bind_ok.mp accepted
    obtain ⟨_, _, accepted⟩ := bind_ok.mp accepted
    split at accepted
    · cases accepted
    · obtain ⟨_, _, accepted⟩ := bind_ok.mp accepted
      obtain ⟨_, valid, accepted⟩ := bind_ok.mp accepted
      cases accepted
      obtain ⟨_, _, same⟩ := bind_ok.mp collected
      cases same
      obtain ⟨_, checked, coverage⟩ := bind_ok.mp valid
      obtain ⟨covered, only⟩ := check_ok.mp coverage
      exact ⟨rfl, checked, covered, only⟩

theorem publicId_given {kind : TenantResourceKind} {resourceId : String}
    (named : (kind, resourceId) ∈ output.resourceMappings.map mappingKey) :
    ∃ mapping ∈ output.resourceMappings, mappingKey mapping = (kind, resourceId) ∧
      publicId output kind resourceId = some mapping.publicId := by
  obtain ⟨mapping, inside, same⟩ := List.mem_map.mp named
  cases found : output.resourceMappings.find? fun mapping =>
      mappingKey mapping = (kind, resourceId) with
  | none =>
    have other := List.find?_eq_none.mp found mapping inside
    exact absurd same (by simpa using other)
  | some first =>
    refine ⟨first, List.mem_of_find?_eq_some found, ?_, ?_⟩
    · simpa using List.find?_some found
    · rw [publicId, found]
      rfl

/-- The keys of users and clients among identities. -/
theorem mapped_listed {identities : List TenantResourceIdentity} {kind : TenantResourceKind}
    {resourceId : String} (inside : (kind, resourceId) ∈ identities.map identityKey)
    (named : kind = .user ∨ kind = .oauthClient) : (kind, resourceId) ∈ mapped identities := by
  obtain ⟨identity, there, same⟩ := List.mem_map.mp inside
  cases same
  refine List.mem_map.mpr ⟨identity, List.mem_filter.mpr ⟨there, ?_⟩, rfl⟩
  rcases named with user | client
  · rw [user]
    rfl
  · rw [client]
    rfl

/-- What finalisation binds a run to. -/
structure Binds (library : Library) (prepared : PreparedMaterialization)
    (output : TenantResourceApplyOutput) (bindings : MaterializationBindings) : Prop where
  applicant : publicId output .user (runUserId library prepared) = some bindings.applicantId
  clients : bindClients library output (runNamespaceSuffix library prepared.requestJti)
    prepared.clients = .ok bindings.clients

theorem bindClients_given {clients : List (String × PreparedClient)} {suffix : String}
    (given : ∀ entry ∈ clients, ∃ id, publicId output .oauthClient
      (runScopedResourceId library "oauth-client" entry.1 suffix) = some id) :
    ∃ ids, bindClients library output suffix clients = .ok ids := by
  induction clients with
  | nil => exact ⟨[], rfl⟩
  | cons entry rest hypothesis =>
    obtain ⟨id, found⟩ := given entry List.mem_cons_self
    obtain ⟨ids, later⟩ := hypothesis fun other inside =>
      given other (List.mem_cons_of_mem _ inside)
    refine ⟨(entry.1, id) :: ids, ?_⟩
    rw [bindClients, found]
    exact bind_ok.mpr ⟨ids, later, rfl⟩

theorem bindClients_keys {clients : List (String × PreparedClient)} {suffix : String}
    {ids : List (String × String)} (bound : bindClients library output suffix clients = .ok ids) :
    SortedMap.keys ids = SortedMap.keys clients := by
  induction clients generalizing ids with
  | nil =>
    cases bound
    rfl
  | cons entry rest hypothesis =>
    rw [bindClients] at bound
    split at bound
    · cases bound
    · obtain ⟨others, later, bound⟩ := bind_ok.mp bound
      cases bound
      exact congrArg _ (hypothesis later)

/-- An accepted result binds the applicant, to an identifier, and every client. -/
theorem output_binds (listed : tenantResourceManifest library protocol prepared
      prepared.requestJti = .ok manifest) (given : Given protocol manifest.identities output) :
    ∃ applicant ids, publicId output .user (runUserId library prepared) = some applicant ∧
      protocol.uuid applicant = some applicant ∧
      bindClients library output (runNamespaceSuffix library prepared.requestJti)
        prepared.clients = .ok ids := by
  obtain ⟨username, keys⟩ := manifest_keys listed
  have user := given.covered _
    (mapped_listed (keys.mem_iff.mpr (user_listed username)) (.inl rfl))
  obtain ⟨mapping, inside, key, found⟩ := publicId_given user
  have each : ∀ entry ∈ prepared.clients, ∃ id, publicId output .oauthClient
      (runClientId library prepared entry.1) = some id := by
    intro entry there
    have client := given.covered _
      (mapped_listed (keys.mem_iff.mpr (client_listed username there)) (.inr rfl))
    obtain ⟨other, _, _, same⟩ := publicId_given client
    exact ⟨other.publicId, same⟩
  obtain ⟨ids, bound⟩ := bindClients_given each
  refine ⟨mapping.publicId, ids, found, ?_, bound⟩
  obtain ⟨before, valid⟩ := checkMappings_each given.mappings mapping inside
  obtain ⟨_, _, valid⟩ := bind_ok.mp valid
  obtain ⟨_, _, valid⟩ := bind_ok.mp valid
  have kind : mapping.kind = .user := congrArg Prod.fst key
  rw [kind] at valid
  exact check_ok.mp valid

end Results

end NazoAuthCtl.TenantResources
