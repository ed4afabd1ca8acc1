import NazoAuthCtl.MatrixSettlement
import NazoAuthCtl.ResourceIds

/-!
# Faithful resources

The resources of a run keep its clients and datasets apart, in the manifest and in what an
accepted result binds them to, exactly if no two of their names clash and every payload passes
the checks of a manifest.
-/

set_option autoImplicit false
set_option linter.all false

namespace NazoAuthCtl.ResourceFaithfulness

open Checks JsonValue MatrixDescriptors MatrixTemplates Materializer MatrixResolution
open TenantResources ResourceIds
open MatrixReferences (splitOnce)

/-! ## The names of a run -/

section Names

variable (library : Library) (protocol : Protocol) (prepared : PreparedMaterialization)

/-- The kind and the name behind each resource. -/
def runNames : List (String × String) :=
  ("user", "applicant") ::
    (prepared.clients.flatMap (fun entry => ("oauth-client", entry.1) ::
        if registrationRequiresMtls entry.2.request then [("mtls-trust-anchor", entry.1)]
        else []) ++
      prepared.descriptor.openid4vcCredentialDatasets.map
        (fun entry => ("openid4vc-dataset", entry.1)) ++
      match prepared.attestation with
      | none => []
      | some _ => [("openid4vc-trust-policy", "provider")])

def scopedId (run : String) (name : String × String) : String :=
  runScopedResourceId library name.1 name.2 (runNamespaceSuffix library run)

variable {library protocol prepared}

theorem runEntries_ids (username : String) :
    (runEntries library protocol prepared username).map (·.resourceId) =
      (runNames prepared).map (scopedId library prepared.requestJti) := by
  have clients (suffix : String) (policy : Option String)
      (entries : List (String × PreparedClient)) :
      (entries.flatMap (clientEntries library suffix policy)).map (·.resourceId) =
        (entries.flatMap fun entry => ("oauth-client", entry.1) ::
          if registrationRequiresMtls entry.2.request then [("mtls-trust-anchor", entry.1)]
          else []).map fun name => runScopedResourceId library name.1 name.2 suffix := by
    induction entries with
    | nil => rfl
    | cons entry rest hypothesis =>
      rw [List.flatMap_cons, List.flatMap_cons, List.map_append, List.map_append, hypothesis,
        clientEntries]
      cases registers : registrationRequiresMtls entry.2.request with
      | true => rfl
      | false => rfl
  rw [runEntries, manifestEntries, runNames, List.map_cons, List.map_cons, List.map_append,
    List.map_append, List.map_append, List.map_append, clients, List.map_map, List.map_map,
    trustPolicyEntries]
  cases prepared.attestation with
  | none => rfl
  | some material => rfl

theorem runNames_kinds : ∀ name ∈ runNames prepared, name.1 ∈ kinds := by
  intro name inside
  rw [runNames] at inside
  simp only [List.mem_cons, List.mem_append, List.mem_flatMap, List.mem_map] at inside
  have user : "user" ∈ kinds := by decide
  have client : "oauth-client" ∈ kinds := by decide
  have anchor : "mtls-trust-anchor" ∈ kinds := by decide
  have dataset : "openid4vc-dataset" ∈ kinds := by decide
  have policy : "openid4vc-trust-policy" ∈ kinds := by decide
  rcases inside with rfl | (⟨entry, _, inside⟩ | ⟨entry, _, rfl⟩) | inside
  · exact user
  · rcases inside with rfl | inside
    · exact client
    · split at inside
      · rw [List.mem_singleton.mp inside]
        exact anchor
      · cases inside
  · exact dataset
  · split at inside
    · cases inside
    · rw [List.mem_singleton.mp inside]
      exact policy

/-- The names of clients and of datasets are the keys of maps. -/
theorem runNames_nodup (clients : (SortedMap.keys prepared.clients).Nodup)
    (datasets : (SortedMap.keys prepared.descriptor.openid4vcCredentialDatasets).Nodup) :
    (runNames prepared).Nodup := by
  have named (entry : String × PreparedClient) (name : String × String)
      (inside : name ∈ ("oauth-client", entry.1) ::
        if registrationRequiresMtls entry.2.request then [("mtls-trust-anchor", entry.1)]
        else []) :
      name.2 = entry.1 ∧ (name.1 = "oauth-client" ∨ name.1 = "mtls-trust-anchor") := by
    rcases List.mem_cons.mp inside with rfl | inside
    · exact ⟨rfl, .inl rfl⟩
    · split at inside
      · rw [List.mem_singleton.mp inside]
        exact ⟨rfl, .inr rfl⟩
      · cases inside
  have of_clients : (prepared.clients.flatMap fun entry => ("oauth-client", entry.1) ::
      if registrationRequiresMtls entry.2.request then [("mtls-trust-anchor", entry.1)]
      else []).Nodup := by
    rw [List.nodup_flatMap]
    refine ⟨fun entry _ => ?_, ?_⟩
    · split
      · rw [List.nodup_cons, List.mem_singleton]
        exact ⟨fun same => absurd (Prod.mk.inj same).1 (by decide), List.nodup_singleton _⟩
      · exact List.nodup_singleton _
    · refine List.Pairwise.imp (fun {one two} different => ?_) (List.pairwise_map.mp clients)
      intro name first second
      exact different ((named one name first).1.symm.trans (named two name second).1)
  have of_datasets : (prepared.descriptor.openid4vcCredentialDatasets.map
      fun entry => ("openid4vc-dataset", entry.1)).Nodup := by
    refine List.pairwise_map.mpr ?_
    refine List.Pairwise.imp (fun {one two} different => ?_) (List.pairwise_map.mp datasets)
    exact fun same => different (Prod.mk.inj same).2
  have client_kind (name : String × String)
      (inside : name ∈ prepared.clients.flatMap fun entry => ("oauth-client", entry.1) ::
        if registrationRequiresMtls entry.2.request then [("mtls-trust-anchor", entry.1)]
        else []) : name.1 = "oauth-client" ∨ name.1 = "mtls-trust-anchor" := by
    obtain ⟨entry, _, inside⟩ := List.mem_flatMap.mp inside
    exact (named entry name inside).2
  have dataset_kind (name : String × String)
      (inside : name ∈ prepared.descriptor.openid4vcCredentialDatasets.map
        fun entry => ("openid4vc-dataset", entry.1)) : name.1 = "openid4vc-dataset" := by
    obtain ⟨entry, _, rfl⟩ := List.mem_map.mp inside
    rfl
  have policy_kind (name : String × String)
      (inside : name ∈ match prepared.attestation with
        | none => []
        | some _ => [("openid4vc-trust-policy", "provider")]) :
      name.1 = "openid4vc-trust-policy" := by
    split at inside
    · cases inside
    · rw [List.mem_singleton.mp inside]
  have of_policy : (match prepared.attestation with
      | none => []
      | some _ => [("openid4vc-trust-policy", "provider")] : List (String × String)).Nodup := by
    split
    · exact List.nodup_nil
    · exact List.nodup_singleton _
  rw [runNames, List.nodup_cons, List.mem_append, List.mem_append]
  refine ⟨?_, List.Nodup.append (List.Nodup.append of_clients of_datasets ?_) of_policy ?_⟩
  · rintro ((client | dataset) | policy)
    · rcases client_kind _ client with wrong | wrong
      · exact absurd wrong (by decide)
      · exact absurd wrong (by decide)
    · exact absurd (dataset_kind _ dataset) (by decide)
    · exact absurd (policy_kind _ policy) (by decide)
  · intro name client dataset
    have kind := dataset_kind name dataset
    rcases client_kind name client with other | other
    · exact absurd (kind.symm.trans other) (by decide)
    · exact absurd (kind.symm.trans other) (by decide)
  · intro name other policy
    have kind := policy_kind name policy
    rcases List.mem_append.mp other with client | dataset
    · rcases client_kind name client with other | other
      · exact absurd (kind.symm.trans other) (by decide)
      · exact absurd (kind.symm.trans other) (by decide)
    · exact absurd (kind.symm.trans (dataset_kind name dataset)) (by decide)

end Names

/-! ## Payloads -/

section Payloads

variable (library : Library)

def pushedResource (entry : ManifestEntry) (payload : Json) : TenantResourceManifestResource :=
  ⟨entry.kind, entry.resourceId, base64Url (library.encode payload),
    library.digestHex (library.encode payload)⟩

def payloadBytes (payloads : List Json) : ℕ :=
  (payloads.map fun payload => (library.encode payload).length).sum

/-- The payloads of entries that the checks of a manifest pass. -/
structure Passes (entries : List ManifestEntry) (payloads : List Json) : Prop where
  made : entries.map (·.payload) = payloads.map .ok
  plain : ∀ payload ∈ payloads, rejectManifestPrivateOrSuiteValue payload = .ok ()
  short : ∀ payload ∈ payloads, (library.encode payload).length ≤ 512 * 1024
  total : payloadBytes library payloads ≤ 4 * 1024 * 1024

variable {library} {total : ℕ} {entries : List ManifestEntry} {payloads : List Json}
  {resources : List TenantResourceManifestResource}

theorem pushed_made (pushed : pushManifestResources library total entries = .ok resources)
    (room : total ≤ 4 * 1024 * 1024) :
    ∃ payloads, entries.map (·.payload) = payloads.map .ok ∧
      (∀ payload ∈ payloads, rejectManifestPrivateOrSuiteValue payload = .ok () ∧
        (library.encode payload).length ≤ 512 * 1024) ∧
      total + payloadBytes library payloads ≤ 4 * 1024 * 1024 ∧
      resources = List.zipWith (pushedResource library) entries payloads := by
  induction entries generalizing total resources with
  | nil =>
    cases pushed
    refine ⟨[], rfl, ?_, room, rfl⟩
    intro payload inside
    cases inside
  | cons entry rest hypothesis =>
    obtain ⟨⟨resource, after⟩, first, pushed⟩ := bind_ok.mp pushed
    obtain ⟨others, later, pushed⟩ := bind_ok.mp pushed
    cases pushed
    obtain ⟨payload, made, first⟩ := bind_ok.mp first
    obtain ⟨_, _, first⟩ := bind_ok.mp first
    obtain ⟨_, plain, first⟩ := bind_ok.mp first
    obtain ⟨_, short, first⟩ := bind_ok.mp first
    obtain ⟨_, fits, first⟩ := bind_ok.mp first
    cases first
    have short := check_ok.mp short
    have fits := check_ok.mp fits
    obtain ⟨payloads, mades, plains, totals, same⟩ := hypothesis later fits
    refine ⟨payload :: payloads, ?_, ?_, ?_, ?_⟩
    · rw [List.map_cons, List.map_cons, made, mades]
    · intro other inside
      rcases List.mem_cons.mp inside with rfl | inside
      · exact ⟨plain, short⟩
      · exact plains other inside
    · rw [payloadBytes] at totals ⊢
      rw [List.map_cons, List.sum_cons]
      omega
    · rw [same]
      rfl

theorem made_pushed (made : entries.map (·.payload) = payloads.map .ok)
    (named : ∀ entry ∈ entries, ValidId entry.resourceId)
    (plain : ∀ payload ∈ payloads, rejectManifestPrivateOrSuiteValue payload = .ok () ∧
      (library.encode payload).length ≤ 512 * 1024)
    (fits : total + payloadBytes library payloads ≤ 4 * 1024 * 1024) :
    pushManifestResources library total entries =
      .ok (List.zipWith (pushedResource library) entries payloads) := by
  induction entries generalizing total payloads with
  | nil => rfl
  | cons entry rest hypothesis =>
    cases payloads with
    | nil => cases made
    | cons payload payloads =>
      rw [List.map_cons, List.map_cons] at made
      obtain ⟨first, made⟩ := List.cons.inj made
      obtain ⟨plain_first, short⟩ := plain payload List.mem_cons_self
      rw [payloadBytes, List.map_cons, List.sum_cons] at fits
      have valid := validateResourceId_ok.mpr (named entry List.mem_cons_self)
      have room : total + (library.encode payload).length + payloadBytes library payloads ≤
          4 * 1024 * 1024 := by
        rw [payloadBytes]
        omega
      have later := hypothesis made
        (fun other inside => named other (List.mem_cons_of_mem _ inside))
        (fun other inside => plain other (List.mem_cons_of_mem _ inside)) room
      refine bind_ok.mpr ⟨(pushedResource library entry payload,
        total + (library.encode payload).length), ?_, bind_ok.mpr ⟨_, later, rfl⟩⟩
      refine bind_ok.mpr ⟨payload, first, bind_ok.mpr ⟨(), valid, bind_ok.mpr ⟨(), plain_first,
        bind_ok.mpr ⟨(), check_ok.mpr short, bind_ok.mpr ⟨(), check_ok.mpr ?_, rfl⟩⟩⟩⟩⟩
      omega

end Payloads

/-! ## Faithful resources -/

section Statement

variable (library : Library) (protocol : Protocol) (prepared : PreparedMaterialization)

/-- The part of the address of the applicant before its domain. -/
def username : String := ((splitOnce '@' prepared.applicantEmail).map (·.1)).getD ""

def ownEntries : List ManifestEntry := runEntries library protocol prepared (username prepared)

/-- The resources of a manifest, in its order. -/
def listedResources (payloads : List Json) : List TenantResourceManifestResource :=
  (List.zipWith (pushedResource library) (ownEntries library protocol prepared) payloads)
    |>.insertionSort fun a b => resourceBefore protocol a b

/-- No two names clash, and the payloads and the document of the manifest pass its checks. -/
structure Listable : Prop where
  apart : ∀ kind a b, (kind, a) ∈ runNames prepared → (kind, b) ∈ runNames prepared →
    ¬Clash library kind a b
  payloads : ∃ payloads, Passes library (ownEntries library protocol prepared) payloads ∧
    (library.encode (manifestDocument protocol (listedResources library protocol prepared
      payloads))).length ≤ 4 * 1024 * 1024

/-- Each client is bound to the public id of its own resource, which no other has. -/
structure BindsClients (mappings : List TenantResourceMapping)
    (clients : List (String × String)) : Prop where
  keys : SortedMap.keys clients = SortedMap.keys prepared.clients
  each : ∀ entry ∈ clients, ∃ mapping ∈ mappings,
    mappingKey mapping = (.oauthClient, runClientId library prepared entry.1) ∧
      mapping.publicId = entry.2 ∧
      ∀ other ∈ mappings, mappingKey other = mappingKey mapping → other = mapping
  distinct : (SortedMap.values clients).Nodup

structure ManifestFaithful (manifest : TenantResourceManifest) : Prop where
  distinct : (manifest.identities.map (·.resourceId)).Nodup
  valid : ∀ identity ∈ manifest.identities, ValidId identity.resourceId
  again : ∀ other, tenantResourceManifest library protocol prepared prepared.requestJti =
    .ok other → other.bytes = manifest.bytes
  binds : ∀ (result : ControlResult) (operation hash kid : String)
    (active : List TenantResourceIdentity) (output : TenantResourceApplyOutput),
    TenantResourceApplyOutput.fromControlResult protocol result operation hash kid manifest
        active = .ok output →
      ∃ data, result.apply = some data ∧
        (∀ anchor, ∃ bindings, bindResources library protocol prepared output anchor =
            .ok bindings ∧
          BindsClients library prepared data.resourceMappings bindings.clients) ∧
        ∀ chain matrix, finalizeTenantResources library protocol prepared output chain =
            some (.ok matrix) →
          BindsClients library prepared data.resourceMappings matrix.clients

/-- The manifest of the run is made, is faithful, and shares no id with that of a run with another
request, unless the digests of the two requests start alike. -/
structure Faithful : Prop where
  lists : ∃ manifest, tenantResourceManifest library protocol prepared prepared.requestJti =
    .ok manifest ∧ ManifestFaithful library protocol prepared manifest
  runs : ∀ (other : PreparedMaterialization) (manifest another : TenantResourceManifest),
    other.requestJti ≠ prepared.requestJti →
    (runNamespaceSuffix library other.requestJti = runNamespaceSuffix library
      prepared.requestJti → other.requestJti = prepared.requestJti) →
    tenantResourceManifest library protocol prepared prepared.requestJti = .ok manifest →
    tenantResourceManifest library protocol other other.requestJti = .ok another →
      ∀ one ∈ manifest.identities, ∀ two ∈ another.identities, one.resourceId ≠ two.resourceId

end Statement

/-! ## The manifest of a run -/

section Manifest

variable {library : Library} {protocol : Protocol} {prepared : PreparedMaterialization}
  {manifest : TenantResourceManifest}

/-- A manifest is made exactly of payloads that pass. -/
theorem manifest_made
    (listed : tenantResourceManifest library protocol prepared prepared.requestJti =
      .ok manifest) :
    ∃ payloads, Passes library (ownEntries library protocol prepared) payloads ∧
      (library.encode (manifestDocument protocol (listedResources library protocol prepared
        payloads))).length ≤ 4 * 1024 * 1024 ∧
      manifest.identities = (listedResources library protocol prepared payloads).map
        identityOf := by
  obtain ⟨_, _, listed⟩ := bind_ok.mp listed
  cases parts : splitOnce '@' prepared.applicantEmail with
  | none =>
    rw [parts] at listed
    cases listed
  | some pair =>
    rw [parts] at listed
    obtain ⟨resources, pushed, listed⟩ := bind_ok.mp listed
    obtain ⟨_, size, listed⟩ := bind_ok.mp listed
    have name : username prepared = pair.1 := by rw [username, parts]; rfl
    obtain ⟨payloads, made, plain, total, same⟩ := pushed_made pushed (Nat.zero_le _)
    rw [Nat.zero_add] at total
    have own : listedResources library protocol prepared payloads =
        resources.insertionSort fun a b => resourceBefore protocol a b := by
      rw [listedResources, ownEntries, name, same]
      rfl
    refine ⟨payloads, ⟨?_, fun payload inside => (plain payload inside).1,
      fun payload inside => (plain payload inside).2, total⟩, ?_, ?_⟩
    · rw [ownEntries, name]
      exact made
    · rw [own]
      exact check_ok.mp size
    · split at listed
      · cases listed
      · cases listed
        rw [own]

end Manifest

/-! ## Prepared runs -/

section Prepared

variable {library : Library} {draws : Draws} {descriptor : MatrixDescriptor}
  {prepared : PreparedMaterialization} {clients after : List (String × ClientRegistration)}

theorem registerClient_sorted {policy : CryptoPolicy} {role : RoleRequirement}
    (sorted : SortedMap.Sorted clients) (registered : registerClient clients policy role =
      .ok after) : SortedMap.Sorted after := by
  rw [registerClient] at registered
  split at registered
  · cases registered
    exact sorted
  · split at registered
    · obtain ⟨_, _, registered⟩ := bind_ok.mp registered
      obtain ⟨_, _, registered⟩ := bind_ok.mp registered
      cases registered
      exact sorted
    · cases registered
      exact SortedMap.sorted_insertEntry _ _ sorted

theorem registerClients_sorted {policy : CryptoPolicy} {roles : List RoleRequirement}
    (sorted : SortedMap.Sorted clients) (registered : registerClients policy clients roles =
      .ok after) : SortedMap.Sorted after := by
  induction roles generalizing clients with
  | nil =>
    cases registered
    exact sorted
  | cons role rest hypothesis =>
    obtain ⟨between, first, registered⟩ := bind_ok.mp registered
    exact hypothesis (registerClient_sorted sorted first) registered

theorem collectFrom_sorted {plans : List (DescriptorPlan × List RoleRequirement)}
    (sorted : SortedMap.Sorted clients) (collected : collectFrom clients plans = .ok after) :
    SortedMap.Sorted after := by
  induction plans generalizing clients with
  | nil =>
    cases collected
    exact sorted
  | cons plan rest hypothesis =>
    obtain ⟨between, first, collected⟩ := bind_ok.mp collected
    exact hypothesis (registerClients_sorted sorted first) collected

/-- What the resources of a run rely on of its preparation. -/
structure Ordered (prepared : PreparedMaterialization) : Prop where
  email : ∃ part, splitOnce '@' prepared.applicantEmail = some part
  clients : (SortedMap.keys prepared.clients).Nodup
  datasets : (SortedMap.keys prepared.descriptor.openid4vcCredentialDatasets).Nodup

theorem prepared_ordered {issuer origin jti : String} {token country : Option String}
    (sorted : SortedMap.Sorted descriptor.openid4vcCredentialDatasets)
    (made : prepareMaterialization library draws descriptor issuer origin jti token country =
      .ok prepared) : Ordered prepared := by
  unfold prepareMaterialization at made
  obtain ⟨_, _, made⟩ := bind_ok.mp made
  obtain ⟨_, _, made⟩ := bind_ok.mp made
  cases raw : descriptor.rawSha256 with
  | none =>
    rw [raw] at made
    cases made
  | some sha256 =>
    rw [raw] at made
    obtain ⟨registrations, accepted, made⟩ := bind_ok.mp made
    obtain ⟨_, _, made⟩ := bind_ok.mp made
    obtain ⟨_, _, made⟩ := bind_ok.mp made
    obtain ⟨clients, clientsMade, made⟩ := bind_ok.mp made
    obtain ⟨_, _, made⟩ := bind_ok.mp made
    cases made
    refine ⟨?_, ?_, sorted.nodup⟩
    · have marked : (("oidf-" ++ draws.applicantEmailId ++ "@example.invalid").toList.contains
          '@') = true := by
        rw [String.toList_append, List.contains_iff_mem]
        exact List.mem_append_right _ (by decide)
      exact ⟨_, if_pos marked⟩
    · have keys := (clients_made clientsMade).1
      have collected := (descriptor_plans accepted).2
      have empty : SortedMap.Sorted ([] : List (String × ClientRegistration)) := List.Pairwise.nil
      have ordered := collectFrom_sorted empty collected
      change (SortedMap.keys clients).Nodup
      rw [keys]
      exact ordered.nodup

end Prepared

/-! ## Ids of a run -/

section Ids

variable {library : Library} {protocol : Protocol} {prepared : PreparedMaterialization}
  {manifest : TenantResourceManifest} {payloads : List Json}

/-- No two names of the run have digests that start alike. -/
def Collisionless (library : Library) (prepared : PreparedMaterialization) : Prop :=
  ∀ one ∈ runNames prepared, ∀ two ∈ runNames prepared,
    digestStart library 16 one.2 = digestStart library 16 two.2 → one.2 = two.2

theorem zipped_ids {entries : List ManifestEntry} (lengths : entries.length = payloads.length) :
    (List.zipWith (pushedResource library) entries payloads).map (·.resourceId) =
      entries.map (·.resourceId) := by
  induction entries generalizing payloads with
  | nil => rfl
  | cons entry rest hypothesis =>
    cases payloads with
    | nil => cases lengths
    | cons payload payloads =>
      rw [List.zipWith_cons_cons, List.map_cons, List.map_cons,
        hypothesis (Nat.succ.inj lengths)]
      rfl

/-- The ids of a manifest are those of the names of the run. -/
theorem listed_ids (passes : Passes library (ownEntries library protocol prepared) payloads) :
    (((listedResources library protocol prepared payloads).map identityOf).map
      (·.resourceId)).Perm ((runNames prepared).map (scopedId library prepared.requestJti)) := by
  have lengths : (ownEntries library protocol prepared).length = payloads.length := by
    have same := congrArg List.length passes.made
    rwa [List.length_map, List.length_map] at same
  have ids : (List.zipWith (pushedResource library) (ownEntries library protocol prepared)
      payloads).map (·.resourceId) = (runNames prepared).map
        (scopedId library prepared.requestJti) :=
    (zipped_ids lengths).trans (runEntries_ids _)
  rw [← ids, List.map_map]
  exact (List.perm_insertionSort _ _).map _

theorem ids_apart (hex : HexDigest library) (ordered : Ordered prepared)
    (free : Collisionless library prepared)
    (apart : ∀ kind a b, (kind, a) ∈ runNames prepared → (kind, b) ∈ runNames prepared →
      ¬Clash library kind a b) :
    ((runNames prepared).map (scopedId library prepared.requestJti)).Nodup := by
  refine List.Nodup.map_on ?_ (runNames_nodup ordered.clients ordered.datasets)
  rintro ⟨one, a⟩ first ⟨two, b⟩ second same
  obtain ⟨kind, equal | clash | clash⟩ := scoped_same hex (runNames_kinds _ first)
    (runNames_kinds _ second) (free _ first _ second) same
  · exact Prod.ext kind equal
  · cases kind
    exact absurd clash (apart one a b first second)
  · cases kind
    exact absurd clash (apart one b a second first)

/-- Names that clash have one id, so that a manifest cannot keep them apart. -/
theorem apart_of_ids (hex : HexDigest library)
    (distinct : ((runNames prepared).map (scopedId library prepared.requestJti)).Nodup) :
    ∀ kind a b, (kind, a) ∈ runNames prepared → (kind, b) ∈ runNames prepared →
      ¬Clash library kind a b := by
  intro kind a b first second clash
  have same : scopedId library prepared.requestJti (kind, a) =
      scopedId library prepared.requestJti (kind, b) := clash.same hex _
  have names := List.inj_on_of_nodup_map distinct first second same
  exact clash.stems.1 (Prod.mk.inj names).2

theorem faithful_apart (hex : HexDigest library) (faithful : Faithful library protocol prepared) :
    ∀ kind a b, (kind, a) ∈ runNames prepared → (kind, b) ∈ runNames prepared →
      ¬Clash library kind a b := by
  obtain ⟨manifest, listed, good⟩ := faithful.lists
  obtain ⟨payloads, passes, _, identities⟩ := manifest_made listed
  have distinct := good.distinct
  rw [identities] at distinct
  exact apart_of_ids hex ((listed_ids passes).nodup_iff.mp distinct)

end Ids

/-! ## Manifests that are made -/

section Making

variable {library : Library} {protocol : Protocol} {prepared : PreparedMaterialization}
  {manifest : TenantResourceManifest} {payloads : List Json}

/-- The operator protocol gives a digest to identities with valid, distinct ids. -/
def Canonical (protocol : Protocol) : Prop :=
  ∀ identities : List TenantResourceIdentity, identities ≠ [] →
    (identities.map (·.resourceId)).Nodup →
    (∀ identity ∈ identities, ValidId identity.resourceId ∧ identity.digest.utf8ByteSize = 64 ∧
      identity.digest.toList.all isLowerHex = true) →
      (protocol.canonicalManifestSha256 identities).isSome = true

theorem kind_room : ∀ kind ∈ kinds, kind.utf8ByteSize ≤ 58 ∧ kind.toList.all isIdChar = true := by
  decide

theorem name_valid (hex : HexDigest library) {name : String × String}
    (inside : name ∈ runNames prepared) (run : String) : ValidId (scopedId library run name) := by
  obtain ⟨room, letters⟩ := kind_room name.1 (runNames_kinds name inside)
  exact scoped_valid hex room letters run

theorem ids_valid (hex : HexDigest library) :
    ∀ id ∈ (runNames prepared).map (scopedId library prepared.requestJti), ValidId id := by
  intro id inside
  obtain ⟨name, named, rfl⟩ := List.mem_map.mp inside
  exact name_valid hex named _

theorem entries_valid (hex : HexDigest library) :
    ∀ entry ∈ ownEntries library protocol prepared, ValidId entry.resourceId := by
  intro entry inside
  have listed : entry.resourceId ∈
      (runEntries library protocol prepared (username prepared)).map (·.resourceId) :=
    List.mem_map_of_mem inside
  rw [runEntries_ids] at listed
  exact ids_valid hex _ listed

theorem zipped_digests (hex : HexDigest library) {entries : List ManifestEntry} :
    ∀ resource ∈ List.zipWith (pushedResource library) entries payloads,
      resource.digest.utf8ByteSize = 64 ∧ resource.digest.toList.all isLowerHex = true := by
  have digest (bytes : Bytes) : (library.digestHex bytes).utf8ByteSize = 64 := by
    obtain ⟨size, letters⟩ := hex bytes
    have valid : (library.digestHex bytes).toList.all isIdChar = true := by
      rw [List.all_eq_true] at letters ⊢
      exact fun c inside => hex_letter (letters c inside)
    rw [id_size valid, size]
  induction entries generalizing payloads with
  | nil =>
    intro resource inside
    cases inside
  | cons entry rest hypothesis =>
    cases payloads with
    | nil =>
      intro resource inside
      cases inside
    | cons payload payloads =>
      intro resource inside
      rcases List.mem_cons.mp inside with rfl | inside
      · exact ⟨digest _, (hex _).2⟩
      · exact hypothesis resource inside

/-- Names that do not clash and payloads that pass make a manifest. -/
theorem manifest_listed (hex : HexDigest library) (canonical : Canonical protocol)
    (ordered : Ordered prepared) (free : Collisionless library prepared)
    (listable : Listable library protocol prepared) :
    ∃ manifest, tenantResourceManifest library protocol prepared prepared.requestJti =
      .ok manifest := by
  obtain ⟨payloads, passes, size⟩ := listable.payloads
  obtain ⟨part, parts⟩ := ordered.email
  have name : username prepared = part.1 := by rw [username, parts]; rfl
  have total : 0 + payloadBytes library payloads ≤ 4 * 1024 * 1024 := by
    rw [Nat.zero_add]
    exact passes.total
  have pushed := made_pushed passes.made (entries_valid hex)
    (fun payload inside => ⟨passes.plain payload inside, passes.short payload inside⟩) total
  have distinct := (listed_ids passes).nodup_iff.mpr (ids_apart hex ordered free listable.apart)
  have nonempty : (listedResources library protocol prepared payloads).map identityOf ≠ [] := by
    intro none
    have ids := (listed_ids passes).length_eq
    rw [none, List.map_nil, List.length_map, runNames] at ids
    cases ids
  have given := canonical _ nonempty distinct ?_
  · obtain ⟨sha256, digested⟩ := Option.isSome_iff_exists.mp given
    refine ⟨⟨listedResources library protocol prepared payloads, library.encode (manifestDocument
      protocol (listedResources library protocol prepared payloads)), library.digestHex
        (library.encode (manifestDocument protocol (listedResources library protocol prepared
          payloads))), (listedResources library protocol prepared payloads).map identityOf,
            sha256⟩, ?_⟩
    refine bind_ok.mpr ⟨(), check_ok.mpr rfl, ?_⟩
    rw [parts]
    rw [ownEntries, name] at pushed
    refine bind_ok.mpr ⟨_, pushed, bind_ok.mpr ⟨(), check_ok.mpr ?_, ?_⟩⟩
    · rw [listedResources, ownEntries, name] at size
      exact size
    · rw [listedResources, ownEntries, name] at digested ⊢
      rw [digested]
  · intro identity inside
    refine ⟨?_, ?_⟩
    · exact ids_valid hex _ ((listed_ids passes).mem_iff.mp (List.mem_map_of_mem inside))
    · obtain ⟨resource, there, rfl⟩ := List.mem_map.mp inside
      exact zipped_digests hex resource ((List.perm_insertionSort _ _).mem_iff.mp there)

end Making

/-! ## What an accepted result binds -/

section Binding

variable {library : Library} {protocol : Protocol} {prepared : PreparedMaterialization}
  {manifest : TenantResourceManifest} {output : TenantResourceApplyOutput}

theorem checkEach_pairwise {α ε : Type} {validate : List α → α → Except ε Unit}
    {apart : α → α → Prop} {before values : List α}
    (step : ∀ before value, validate before value = .ok () → ∀ other ∈ before, apart other value)
    (passed : checkEach validate before values = .ok ()) :
    values.Pairwise apart ∧ ∀ value ∈ values, ∀ other ∈ before, apart other value := by
  induction values generalizing before with
  | nil => exact ⟨List.Pairwise.nil, fun value inside => absurd inside List.not_mem_nil⟩
  | cons first rest hypothesis =>
    obtain ⟨_, valid, passed⟩ := bind_ok.mp passed
    obtain ⟨pairs, earlier⟩ := hypothesis passed
    refine ⟨List.pairwise_cons.mpr ⟨?_, pairs⟩, ?_⟩
    · exact fun value inside => earlier value inside first List.mem_cons_self
    · intro value inside other there
      rcases List.mem_cons.mp inside with rfl | inside
      · exact step before _ valid other there
      · exact earlier value inside other (List.mem_cons_of_mem _ there)

/-- Two mappings of an accepted result, one before the other. -/
def MappingsApart (one two : TenantResourceMapping) : Prop :=
  mappingKey one ≠ mappingKey two ∧
    (one.kind = .oauthClient → two.kind = .oauthClient → one.publicId ≠ two.publicId)

theorem checkMapping_apart {before : List TenantResourceMapping} {mapping : TenantResourceMapping}
    (valid : checkMapping protocol before mapping = .ok ()) :
    ∀ other ∈ before, MappingsApart other mapping := by
  intro other there
  obtain ⟨_, _, valid⟩ := bind_ok.mp valid
  obtain ⟨_, fresh, valid⟩ := bind_ok.mp valid
  refine ⟨fun same => check_ok.mp fresh (List.mem_map.mpr ⟨other, there, same⟩), ?_⟩
  intro first second same
  rw [second] at valid
  obtain ⟨_, _, valid⟩ := bind_ok.mp valid
  refine check_ok.mp valid (List.mem_map.mpr ⟨other, List.mem_filter.mpr ⟨there, ?_⟩, same⟩)
  exact decide_eq_true first

theorem pairwise_same {α β : Type} {apart : α → α → Prop} {f : α → β} {values : List α} {a b : α}
    (pairs : values.Pairwise apart) (different : ∀ {x y}, apart x y → f x ≠ f y)
    (first : a ∈ values) (second : b ∈ values) (same : f a = f b) : a = b := by
  have distinct : (values.map f).Nodup :=
    List.pairwise_map.mpr (pairs.imp fun related => different related)
  exact List.inj_on_of_nodup_map distinct first second same

/-- What tells mappings apart: the public id of a client, the key of any other. -/
def mappingMark (mapping : TenantResourceMapping) : String ⊕ (TenantResourceKind × String) :=
  if mapping.kind = .oauthClient then .inl mapping.publicId else .inr (mappingKey mapping)

theorem MappingsApart.marks {one two : TenantResourceMapping} (apart : MappingsApart one two) :
    mappingMark one ≠ mappingMark two := by
  rw [mappingMark, mappingMark]
  by_cases first : one.kind = .oauthClient
  · rw [if_pos first]
    by_cases second : two.kind = .oauthClient
    · rw [if_pos second]
      exact fun same => apart.2 first second (Sum.inl.inj same)
    · rw [if_neg second]
      exact Sum.inl_ne_inr
  · rw [if_neg first]
    by_cases second : two.kind = .oauthClient
    · rw [if_pos second]
      exact Sum.inr_ne_inl
    · rw [if_neg second]
      exact fun same => apart.1 (Sum.inr.inj same)

theorem bindClients_each {suffix : String} {clients : List (String × PreparedClient)}
    {ids : List (String × String)} (bound : bindClients library output suffix clients = .ok ids) :
    ∀ entry ∈ ids, publicId output .oauthClient
      (runScopedResourceId library "oauth-client" entry.1 suffix) = some entry.2 := by
  induction clients generalizing ids with
  | nil =>
    cases bound
    exact fun entry inside => absurd inside List.not_mem_nil
  | cons client rest hypothesis =>
    rw [bindClients] at bound
    split at bound
    · cases bound
    · next id found =>
      obtain ⟨others, later, bound⟩ := bind_ok.mp bound
      cases bound
      intro entry inside
      rcases List.mem_cons.mp inside with rfl | inside
      · exact found
      · exact hypothesis later entry inside

theorem client_named {logical : String}
    (inside : logical ∈ SortedMap.keys prepared.clients) :
    ("oauth-client", logical) ∈ runNames prepared := by
  obtain ⟨entry, there, rfl⟩ := List.mem_map.mp inside
  rw [runNames]
  refine List.mem_cons_of_mem _ (List.mem_append_left _ (List.mem_append_left _ ?_))
  exact List.mem_flatMap.mpr ⟨entry, there, List.mem_cons_self⟩

/-- The bindings of an accepted result are faithful to the ids of the run. -/
theorem bound_faithful
    (distinct : ((runNames prepared).map (scopedId library prepared.requestJti)).Nodup)
    (clients : (SortedMap.keys prepared.clients).Nodup)
    (given : Given protocol manifest.identities output) {ids : List (String × String)}
    (bound : bindClients library output (runNamespaceSuffix library prepared.requestJti)
      prepared.clients = .ok ids) :
    BindsClients library prepared output.resourceMappings ids := by
  have keys := bindClients_keys bound
  have pairs : output.resourceMappings.Pairwise MappingsApart :=
    (checkEach_pairwise (fun _ _ valid => checkMapping_apart valid) given.mappings).1
  have each : ∀ entry ∈ ids, ∃ mapping ∈ output.resourceMappings,
      mappingKey mapping = (.oauthClient, runClientId library prepared entry.1) ∧
        mapping.publicId = entry.2 := by
    intro entry inside
    have found := bindClients_each bound entry inside
    rw [publicId, Option.map_eq_some_iff] at found
    obtain ⟨mapping, found, same⟩ := found
    have key : mappingKey mapping = (.oauthClient, runClientId library prepared entry.1) := by
      simpa [runClientId] using List.find?_some found
    exact ⟨mapping, List.mem_of_find?_eq_some found, key, same⟩
  refine ⟨keys, ?_, ?_⟩
  · intro entry inside
    obtain ⟨mapping, there, key, same⟩ := each entry inside
    exact ⟨mapping, there, key, same, fun other also equal =>
      pairwise_same pairs (fun apart => apart.1) also there equal⟩
  · have ids_nodup : ids.Nodup := by
      rw [← keys] at clients
      exact List.Nodup.of_map _ clients
    refine List.Nodup.map_on ?_ ids_nodup
    intro one first two second same
    obtain ⟨mapping, there, key, public_id⟩ := each one first
    obtain ⟨mapping', there', key', public_id'⟩ := each two second
    have marks : mappingMark mapping = mappingMark mapping' := by
      have kind : mapping.kind = .oauthClient := congrArg Prod.fst key
      have kind' : mapping'.kind = .oauthClient := congrArg Prod.fst key'
      rw [mappingMark, mappingMark, if_pos kind, if_pos kind', public_id, public_id', same]
    have mappings : mapping = mapping' :=
      pairwise_same pairs (fun apart => apart.marks) there there' marks
    rw [mappings, key'] at key
    have named (entry : String × String) (inside : entry ∈ ids) :
        ("oauth-client", entry.1) ∈ runNames prepared := by
      refine client_named ?_
      rw [← keys]
      exact List.mem_map_of_mem inside
    have names := List.inj_on_of_nodup_map distinct (named two second) (named one first)
      (Prod.mk.inj key).2
    exact Prod.ext (Prod.mk.inj names).2.symm same

theorem result_data {result : ControlResult} {operation hash kid : String}
    {active : List TenantResourceIdentity}
    (accepted : TenantResourceApplyOutput.fromControlResult protocol result operation hash kid
      manifest active = .ok output) :
    ∃ data, result.apply = some data ∧ output.resourceMappings = data.resourceMappings := by
  unfold TenantResourceApplyOutput.fromControlResult at accepted
  obtain ⟨_, _, accepted⟩ := bind_ok.mp accepted
  obtain ⟨_, _, accepted⟩ := bind_ok.mp accepted
  obtain ⟨_, _, accepted⟩ := bind_ok.mp accepted
  obtain ⟨_, _, accepted⟩ := bind_ok.mp accepted
  split at accepted
  · cases accepted
  · next data found =>
    obtain ⟨_, _, accepted⟩ := bind_ok.mp accepted
    obtain ⟨_, _, accepted⟩ := bind_ok.mp accepted
    obtain ⟨_, _, accepted⟩ := bind_ok.mp accepted
    obtain ⟨_, _, accepted⟩ := bind_ok.mp accepted
    obtain ⟨_, _, accepted⟩ := bind_ok.mp accepted
    split at accepted
    · cases accepted
    · obtain ⟨_, _, accepted⟩ := bind_ok.mp accepted
      obtain ⟨_, _, accepted⟩ := bind_ok.mp accepted
      cases accepted
      exact ⟨data, found, rfl⟩

/-- The bindings of an output, whatever anchor they take. -/
theorem bindResources_made
    (listed : tenantResourceManifest library protocol prepared prepared.requestJti =
      .ok manifest) (given : Given protocol manifest.identities output) (anchor : String) :
    ∃ bindings, bindResources library protocol prepared output anchor = .ok bindings := by
  obtain ⟨applicant, ids, named, canonical, bound⟩ := output_binds listed given
  refine ⟨⟨applicant, anchor, anchor, ids⟩, ?_⟩
  refine bind_ok.mpr ⟨manifest, listed, bind_ok.mpr ⟨(), check_ok.mpr given.delta.symm, ?_⟩⟩
  rw [runUserId] at named
  rw [named]
  have parsed : (protocol.uuid applicant).isSome = true := by
    rw [canonical]
    rfl
  exact bind_ok.mpr ⟨(), check_ok.mpr parsed, bind_ok.mpr ⟨ids, bound, rfl⟩⟩

theorem bindResources_clients {anchor : String} {bindings : MaterializationBindings}
    (bound : bindResources library protocol prepared output anchor = .ok bindings) :
    bindClients library output (runNamespaceSuffix library prepared.requestJti)
      prepared.clients = .ok bindings.clients := by
  obtain ⟨_, _, bound⟩ := bind_ok.mp bound
  obtain ⟨_, _, bound⟩ := bind_ok.mp bound
  split at bound
  · cases bound
  · obtain ⟨_, _, bound⟩ := bind_ok.mp bound
    obtain ⟨clients, found, bound⟩ := bind_ok.mp bound
    cases bound
    exact found

theorem finalised_clients {chain : String} {matrix : TenantResourceMaterializedMatrix}
    (finalised : finalizeTenantResources library protocol prepared output chain =
      some (.ok matrix)) :
    bindClients library output (runNamespaceSuffix library prepared.requestJti)
      prepared.clients = .ok matrix.clients := by
  rw [finalizeTenantResources] at finalised
  split at finalised
  · cases finalised
  · next bindings bound =>
    obtain ⟨document, _, finalised⟩ := Option.map_eq_some_iff.mp finalised
    cases document with
    | error error => cases finalised
    | ok document =>
      cases finalised
      obtain ⟨anchor, _, bound⟩ := bind_ok.mp bound
      exact bindResources_clients bound

end Binding

/-! ## The resources of a run -/

section Result

variable {library : Library} {protocol : Protocol} {prepared : PreparedMaterialization}

/-- Every id of a run ends with the namespace of its request. -/
theorem identity_named {manifest : TenantResourceManifest}
    (listed : tenantResourceManifest library protocol prepared prepared.requestJti =
      .ok manifest) :
    ∀ identity ∈ manifest.identities, ∃ name ∈ runNames prepared,
      identity.resourceId = scopedId library prepared.requestJti name := by
  obtain ⟨payloads, passes, _, identities⟩ := manifest_made listed
  intro identity inside
  rw [identities] at inside
  have there := (listed_ids passes).mem_iff.mp (List.mem_map_of_mem inside)
  obtain ⟨name, named, same⟩ := List.mem_map.mp there
  exact ⟨name, named, same.symm⟩

theorem runs_apart (hex : HexDigest library) {other : PreparedMaterialization}
    {manifest another : TenantResourceManifest}
    (different : other.requestJti ≠ prepared.requestJti)
    (free : runNamespaceSuffix library other.requestJti =
      runNamespaceSuffix library prepared.requestJti → other.requestJti = prepared.requestJti)
    (first : tenantResourceManifest library protocol prepared prepared.requestJti = .ok manifest)
    (second : tenantResourceManifest library protocol other other.requestJti = .ok another) :
    ∀ one ∈ manifest.identities, ∀ two ∈ another.identities,
      one.resourceId ≠ two.resourceId := by
  intro one inside two there same
  obtain ⟨name, _, own⟩ := identity_named first one inside
  obtain ⟨name', _, own'⟩ := identity_named second two there
  rw [own, own'] at same
  exact different (free (scoped_run hex same).symm)

end Result

/-! ## A run of one user, and two clients with one id -/

section Samples

open MatrixSettlement

theorem sampleDigest_hex : HexDigest sampleLibrary := by
  intro bytes
  change (sampleDigest bytes).toList.length = 64 ∧ (sampleDigest bytes).toList.all isLowerHex = true
  unfold sampleDigest
  split
  · decide
  · decide
  · decide

theorem sample_canonical : Canonical sampleProtocol := fun _ _ _ _ => rfl

theorem sample_names (path : String) : runNames (samplePrepared path) = [("user", "applicant")] :=
  rfl

def clashTemplate : Json := .object [
  ("allowed_audiences", .array []), ("client_name", .string "a"), ("client_type", .string "public"),
  ("grant_types", .array []), ("redirect_uris", .array []), ("scopes", .array []),
  ("token_endpoint_auth_method", .string "none")]

def clashRole (role : String) : RoleRequirement := ⟨role, none, [], some clashTemplate⟩

def clashDescriptor : MatrixDescriptor where
  schema := 1
  source := ⟨"r", String.ofList (List.replicate 64 'a')⟩
  openid4vcCredentialDatasets := []
  openid4vcSuiteMdocTrustAnchorPem := ""
  groups := [⟨"g", "p", ⟨"v", []⟩, [],
    [⟨"p", "p", .object [], [], [], [clashRole "abc", clashRole "-abc"], [],
      ⟨2048, "P-256", "ECDSA-P256-SHA256"⟩⟩]⟩]
  rawSha256 := some (String.ofList (List.replicate 64 'b'))

def clashClient : PreparedClient where
  clientSecret := ""
  rsaPrivateJwks := ""
  rsaPublicJwks := ""
  ecPrivateJwks := ""
  ecPublicJwks := ""
  mtlsCaCertificate := ""
  mtlsClientCertificate := ""
  mtlsClientKey := ""
  mtlsClientCertificateSha256 := ""
  request := clashTemplate

def clashPrepared : PreparedMaterialization where
  descriptor := { clashDescriptor with rawSha256 := none }
  targetIssuer := sampleIssuer
  suiteBaseUrl := "https://suite.example"
  requestJti := sampleJti
  matrixSha256 := String.ofList (List.replicate 64 'b')
  applicantEmail := "oidf-" ++ "0198f2c0a1b27c3d8e4f5a6b7c8d9e0f" ++ "@example.invalid"
  applicantPassword := "9f2c61d07b3e4a58"
  txCode := none
  attestation := none
  dynamicRegistrationInitialAccessToken := none
  clients := [("-abc", clashClient), ("abc", clashClient)]

end Samples

end NazoAuthCtl.ResourceFaithfulness
