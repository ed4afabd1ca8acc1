import NazoAuthCtl.MatrixFinalisation
import NazoAuthCtl.TenantResources

/-!
# References of an accepted descriptor

Every chain of an accepted descriptor ends, at a name of the grammar and at a client that the
descriptor registers. Whether the resolver answers that name is settled by what is left: its
field, its path or its segments, and the clients of the run. An accepted result of Apply leaves
nothing to it.
-/

set_option autoImplicit false
set_option linter.all false

namespace NazoAuthCtl.MatrixSettlement

open Checks JsonValue MatrixReferences MatrixDescriptors MatrixTemplates Materializer
open MatrixResolution JsonEdits MatrixFinalisation TenantResources

/-! ## Runs over lists -/

section Runs

variable {α β γ : Type}

/-- A result that is there, is no late error, and of which a property holds if it is a value. -/
def Settles (good : α → Prop) (result : Option (Except MaterializerError α)) : Prop :=
  ∃ outcome, result = some outcome ∧ Silent outcome ∧ ∀ value, outcome = .ok value → good value

theorem settles_map {good : α → Prop} {better : β → Prop} {f : α → β}
    {result : Option (Except MaterializerError α)} (settled : Settles good result)
    (kept : ∀ value, good value → better (f value)) :
    Settles better (result.map fun outcome => outcome.map f) := by
  obtain ⟨outcome, rfl, silent, each⟩ := settled
  refine ⟨outcome.map f, rfl, silent_map silent, ?_⟩
  intro value mapped
  cases outcome with
  | error error => cases mapped
  | ok before =>
    cases mapped
    exact kept before (each before rfl)

theorem settles_both {first : α → Prop} {second : β → Prop} {joined : γ → Prop}
    {join : α → β → γ} {one : Option (Except MaterializerError α)}
    {two : Option (Except MaterializerError β)} (here : Settles first one)
    (there : Settles second two) (kept : ∀ a b, first a → second b → joined (join a b)) :
    Settles joined (both join one two) := by
  obtain ⟨a, rfl, silentA, goodA⟩ := here
  obtain ⟨b, rfl, silentB, goodB⟩ := there
  cases a with
  | error error =>
    exact ⟨.error error, rfl, silent_error (silentA error rfl), fun _ same => by cases same⟩
  | ok a =>
    cases b with
    | error error =>
      exact ⟨.error error, rfl, silent_error (silentB error rfl), fun _ same => by cases same⟩
    | ok b =>
      refine ⟨.ok (join a b), rfl, silent_ok, ?_⟩
      intro value same
      cases same
      exact kept a b (goodA a rfl) (goodB b rfl)

theorem settles_each {good : α → β → Prop} {step : α → Option (Except MaterializerError β)}
    {values : List α} (settled : ∀ value ∈ values, Settles (good value) (step value)) :
    Settles (List.Forall₂ good values) (each step values) := by
  induction values with
  | nil =>
    refine ⟨.ok [], rfl, silent_ok, ?_⟩
    intro made same
    cases same
    exact .nil
  | cons value rest hypothesis =>
    exact settles_both (settled value List.mem_cons_self)
      (hypothesis fun other inside => settled other (List.mem_cons_of_mem _ inside))
      fun _ _ => .cons

end Runs

/-! ## The finalised matrix -/

section Finalised

variable (library : Library) (protocol : Protocol) (prepared : PreparedMaterialization)
  (output : TenantResourceApplyOutput)

/-- What each placeholder of a plan stands for: the value of the end of its chain. -/
def Meaning (bindings : MaterializationBindings) (plan : DescriptorPlan)
    (meaning : String → Json) : Prop :=
  ∀ text ∈ textsOf plan.configTemplate, ∀ name, parsePlaceholder text = .ok name →
    ∃ last, endOfChain plan.secretBindings name = some (.ok last) ∧
      resolveName library prepared bindings last = .ok (meaning text)

/-- A plan keeps what it is, and its configuration is the template with each placeholder
replaced, apart from the fields of its kind. -/
structure PlanMade (bindings : MaterializationBindings) (plan : DescriptorPlan)
    (made : MatrixPlan) : Prop where
  id : made.id = plan.id
  name : made.plan = plan.plan
  variant : made.variant = plan.variant
  expectedResults : made.expectedResults = plan.expectedResults
  config : ∃ meaning, Meaning library prepared bindings plan meaning ∧
    Untouched (ownFields plan) (replaceTexts (replacement meaning) plan.configTemplate)
      made.config

structure GroupMade (bindings : MaterializationBindings) (group : DescriptorGroup)
    (made : MatrixGroup) : Prop where
  id : made.id = group.id
  profile : made.profile = group.profile
  variant : made.variant = group.variant
  plans : List.Forall₂ (PlanMade library prepared bindings) group.plans made.plans

/-- Everything resolves: each reference of each plan has a value under what the result binds,
and what it needs was generated, finalisation gives no late error, and a finalised matrix is its
templates with the placeholders replaced. -/
structure Resolves : Prop where
  bound : ∃ bindings, Binds library prepared output bindings
  resolved : ∀ bindings, Binds library prepared output bindings →
    ∀ plan ∈ prepared.descriptor.plans, ∀ name ∈ references plan, ∃ value,
      resolveReference library plan.secretBindings prepared bindings name = some (.ok value)
  generated : ∀ plan ∈ prepared.descriptor.plans, ∀ name ∈ references plan, ∀ last,
    endOfChain plan.secretBindings name = some (.ok last) →
      Generated prepared (readReference last)
  ends : ∀ chain, ∃ result,
    finalizeTenantResources library protocol prepared output chain = some result ∧ Silent result
  made : ∀ chain matrix,
    finalizeTenantResources library protocol prepared output chain = some (.ok matrix) →
      ∃ bindings, bindOutput library protocol prepared output chain = .ok bindings ∧
        List.Forall₂ (GroupMade library prepared bindings) prepared.descriptor.groups
          matrix.matrix.groups

/-- Every reference that no binding of its plan replaces is one that the resolver answers. -/
def Answerable : Prop :=
  ∀ plan ∈ prepared.descriptor.plans, ∀ name ∈ references plan,
    aliasOf plan.secretBindings name = none → answerable library prepared (readReference name)

end Finalised

section Settlement

variable {library : Library} {protocol : Protocol} {draws : Draws}
  {prepared : PreparedMaterialization} {registrations : List (String × ClientRegistration)}
  {output : TenantResourceApplyOutput} {bindings : MaterializationBindings}
  {plan : DescriptorPlan} {name : String}

theorem follow_unbound {aliases : Bindings} {fuel : ℕ} {last : String}
    (reached : follow aliases fuel name = some (.ok last)) : aliasOf aliases last = none := by
  induction fuel generalizing name with
  | zero => cases reached
  | succ fuel hypothesis =>
    rw [follow] at reached
    cases named : aliasOf aliases name with
    | none =>
      rw [named] at reached
      cases reached
      exact named
    | some text =>
      rw [named] at reached
      simp only at reached
      cases parsed : parsePlaceholder text with
      | error error =>
        rw [parsed] at reached
        cases reached
      | ok nested =>
        rw [parsed] at reached
        exact hypothesis reached

theorem endOfChain_unbound {aliases : Bindings} (unbound : aliasOf aliases name = none) :
    endOfChain aliases name = some (.ok name) := by
  rw [endOfChain, follow, unbound]

/-- The end of the chain of a reference, and what is known of it. -/
theorem reference_ends (ready : Ready library draws prepared registrations)
    (listed : plan ∈ prepared.descriptor.plans) (inside : name ∈ references plan) :
    ∃ last, endOfChain plan.secretBindings name = some (.ok last) ∧
      Ended registrations prepared last ∧ last ∈ references plan ∧
      aliasOf plan.secretBindings last = none := by
  obtain ⟨last, reached, builtin, client⟩ := chain_ends (ready.plans plan listed) inside
  have there := follow_reference inside reached
  exact ⟨last, reached, ⟨builtin, client, reference_required listed there⟩, there,
    follow_unbound reached⟩

theorem binds_bound (binds : Binds library prepared output bindings) :
    Bound prepared bindings.clients := by
  intro logical inside
  rw [← bindClients_keys binds.clients] at inside
  cases found : SortedMap.get bindings.clients logical with
  | some id => exact ⟨id, rfl⟩
  | none =>
    rw [SortedMap.get, Option.map_eq_none_iff, List.find?_eq_none] at found
    obtain ⟨id, there⟩ := SortedMap.mem_keys.mp inside
    exact absurd (found _ there) (by simp)

/-- An answerable reference has the value of the end of its chain. -/
theorem reference_valued (documented : Documented library draws)
    (ready : Ready library draws prepared registrations)
    (bound : Bound prepared bindings.clients) (answers : Answerable library prepared)
    (listed : plan ∈ prepared.descriptor.plans) (inside : name ∈ references plan) :
    ∃ last value, endOfChain plan.secretBindings name = some (.ok last) ∧
      resolveName library prepared bindings last = .ok value ∧
      Generated prepared (readReference last) := by
  obtain ⟨last, reached, ended, there, unbound⟩ := reference_ends ready listed inside
  have settled := (reference_settled documented ready ended bound).mpr
    (answers plan listed last there unbound)
  obtain ⟨⟨value, resolved⟩, generated⟩ := settled
  exact ⟨last, value, reached, resolved, generated⟩

theorem resolveReference_valued {last : String} {value : Json}
    (reached : endOfChain plan.secretBindings name = some (.ok last))
    (resolved : resolveName library prepared bindings last = .ok value) :
    resolveReference library plan.secretBindings prepared bindings name = some (.ok value) := by
  rw [resolveReference, reached, Option.map_some]
  exact congrArg some resolved

/-- The template of an answerable plan, with its placeholders replaced. -/
theorem template_replaced (documented : Documented library draws)
    (ready : Ready library draws prepared registrations)
    (bound : Bound prepared bindings.clients) (answers : Answerable library prepared)
    (listed : plan ∈ prepared.descriptor.plans) :
    ∃ meaning, Meaning library prepared bindings plan meaning ∧
      materializeValue library plan.configTemplate plan.secretBindings prepared bindings =
        some (.ok (replaceTexts (replacement meaning) plan.configTemplate)) := by
  have valued : ∀ text, ∃ value, text ∈ textsOf plan.configTemplate → ∀ name,
      parsePlaceholder text = .ok name → ∃ last,
        endOfChain plan.secretBindings name = some (.ok last) ∧
          resolveName library prepared bindings last = .ok value := by
    intro text
    by_cases placed : text ∈ textsOf plan.configTemplate ∧ ∃ name, parsePlaceholder text = .ok name
    · obtain ⟨inside, name, parsed⟩ := placed
      obtain ⟨last, value, reached, resolved, _⟩ := reference_valued documented ready bound answers
        listed (mem_references.mpr ⟨text, .inl inside, parsed⟩)
      refine ⟨value, fun _ other same => ?_⟩
      rw [parsed] at same
      cases same
      exact ⟨last, reached, resolved⟩
    · exact ⟨.null, fun inside name parsed => absurd ⟨inside, name, parsed⟩ placed⟩
  obtain ⟨meaning, means⟩ := Classical.axiom_of_choice valued
  refine ⟨meaning, means, tree_replaced fun text inside => ⟨?_, ?_⟩⟩
  · exact checkTree_texts (ready.plans plan listed).template text inside
  · intro name parsed
    obtain ⟨last, reached, resolved⟩ := means text inside name parsed
    exact resolveReference_valued reached resolved

theorem plan_settles (documented : Documented library draws)
    (ready : Ready library draws prepared registrations)
    (bound : Bound prepared bindings.clients) (answers : Answerable library prepared)
    (listed : plan ∈ prepared.descriptor.plans) :
    Settles (PlanMade library prepared bindings plan)
      (materializePlan library prepared bindings plan) := by
  obtain ⟨meaning, means, replaced⟩ := template_replaced documented ready bound answers listed
  have decoded : Decoded library prepared := by
    intro material found
    obtain ⟨origin, country, drawn⟩ := ready.attestation material found
    exact documented.attestation _ _ _ drawn
  rw [materializePlan, replaced, Option.map_some]
  refine ⟨_, rfl, ?_, ?_⟩
  · exact silent_bind silent_ok fun _ _ =>
      silent_bind (materializeVciConfig_silent decoded) fun _ _ =>
        silent_bind (materializeVpConfig_silent decoded) fun _ _ => silent_ok
  · intro made result
    obtain ⟨config, same, result⟩ := bind_ok.mp result
    cases same
    obtain ⟨issued, vci, result⟩ := bind_ok.mp result
    obtain ⟨verified, vp, result⟩ := bind_ok.mp result
    cases result
    refine ⟨rfl, rfl, rfl, rfl, meaning, means, ?_⟩
    exact untouched_trans
      (untouched_mono (List.subset_append_left _ _) (materializeVciConfig_untouched vci))
      (untouched_mono (List.subset_append_right _ _) (materializeVpConfig_untouched vp))

theorem document_settles (documented : Documented library draws)
    (ready : Ready library draws prepared registrations)
    (bound : Bound prepared bindings.clients) (answers : Answerable library prepared) :
    Settles (fun document => List.Forall₂ (GroupMade library prepared bindings)
        prepared.descriptor.groups document.groups)
      (materializeMatrixDocument library prepared bindings) := by
  refine settles_map (settles_each fun group inside => ?_) fun groups made => made
  refine settles_map (settles_each fun plan there => ?_) fun plans made => ⟨rfl, rfl, rfl, made⟩
  exact plan_settles documented ready bound answers
    (List.mem_flatMap.mpr ⟨group, inside, there⟩)

theorem bindOutput_bound {chain : String} {manifest : TenantResourceManifest}
    (listed : tenantResourceManifest library protocol prepared prepared.requestJti = .ok manifest)
    (given : Given protocol manifest.identities output) :
    Silent (bindOutput library protocol prepared output chain) ∧
      ∀ bindings, bindOutput library protocol prepared output chain = .ok bindings →
        Binds library prepared output bindings := by
  obtain ⟨applicant, ids, user, uuid, clients⟩ := output_binds listed given
  have bound : ∀ anchor, bindResources library protocol prepared output anchor =
      .ok ⟨applicant, anchor, anchor, ids⟩ := by
    intro anchor
    rw [runUserId] at user
    rw [bindResources, user]
    refine bind_ok.mpr ⟨manifest, listed, bind_ok.mpr ⟨(), check_ok.mpr given.delta.symm, ?_⟩⟩
    refine bind_ok.mpr ⟨(), check_ok.mpr ?_, bind_ok.mpr ⟨ids, clients, rfl⟩⟩
    rw [uuid]
    rfl
  constructor
  · refine silent_bind tenantTrustAnchor_silent fun anchor _ => ?_
    rw [bound anchor]
    exact silent_ok
  · intro bindings result
    obtain ⟨anchor, _, result⟩ := bind_ok.mp result
    rw [bound anchor] at result
    cases result
    exact ⟨user, clients⟩

theorem finalize_settles (documented : Documented library draws)
    (ready : Ready library draws prepared registrations) {manifest : TenantResourceManifest}
    (listed : tenantResourceManifest library protocol prepared prepared.requestJti = .ok manifest)
    (given : Given protocol manifest.identities output) (answers : Answerable library prepared)
    (chain : String) :
    Settles (fun matrix => ∃ bindings,
        bindOutput library protocol prepared output chain = .ok bindings ∧
          List.Forall₂ (GroupMade library prepared bindings) prepared.descriptor.groups
            matrix.matrix.groups)
      (finalizeTenantResources library protocol prepared output chain) := by
  obtain ⟨silent, binds⟩ : Silent (bindOutput library protocol prepared output chain) ∧
      ∀ bindings, bindOutput library protocol prepared output chain = .ok bindings →
        Binds library prepared output bindings := bindOutput_bound listed given
  rw [finalizeTenantResources]
  cases bound : bindOutput library protocol prepared output chain with
  | error error => exact ⟨.error error, rfl, silent_error (silent error bound), fun _ same => by
      cases same⟩
  | ok bindings =>
    exact settles_map (document_settles documented ready (binds_bound (binds bindings bound))
      answers) fun document made => ⟨bindings, rfl, made⟩

/-- Of a prepared run and an accepted result, everything resolves exactly if every reference
that no binding replaces is one that the resolver answers. -/
theorem descriptor_resolves (documented : Documented library draws) {descriptor : MatrixDescriptor}
    {issuer origin jti : String} {token country : Option String}
    (preparation : prepareMaterialization library draws descriptor issuer origin jti token country =
      .ok prepared) {manifest : TenantResourceManifest}
    (listed : tenantResourceManifest library protocol prepared prepared.requestJti = .ok manifest)
    {result : ControlResult} {operation hash kid : String} {active : List TenantResourceIdentity}
    (accepted : TenantResourceApplyOutput.fromControlResult protocol result operation hash kid
      manifest active = .ok output) :
    Resolves library protocol prepared output ↔ Answerable library prepared := by
  obtain ⟨registrations, ready⟩ := prepared_ready preparation
  have given := result_given accepted
  obtain ⟨applicant, ids, user, _, clients⟩ := output_binds listed given
  have here : Binds library prepared output ⟨applicant, "", "", ids⟩ := ⟨user, clients⟩
  constructor
  · intro resolves plan inside name referred unbound
    obtain ⟨last, reached, ended, _, _⟩ := reference_ends ready inside referred
    have same := endOfChain_unbound unbound
    rw [same] at reached
    cases reached
    refine (reference_settled documented ready ended (binds_bound here)).mp ⟨?_, ?_⟩
    · obtain ⟨value, resolved⟩ := resolves.resolved _ here plan inside name referred
      rw [resolveReference, same, Option.map_some] at resolved
      exact ⟨value, Option.some.inj resolved⟩
    · exact resolves.generated plan inside name referred name same
  · intro answers
    refine ⟨⟨_, here⟩, ?_, ?_, ?_, ?_⟩
    · intro bindings binds plan inside name referred
      obtain ⟨last, value, reached, resolved, _⟩ := reference_valued documented ready
        (binds_bound binds) answers inside referred
      exact ⟨value, resolveReference_valued reached resolved⟩
    · intro plan inside name referred last reached
      obtain ⟨other, value, same, _, generated⟩ := reference_valued documented ready
        (binds_bound here) answers inside referred
      rw [reached] at same
      cases same
      exact generated
    · intro chain
      obtain ⟨outcome, same, silent, _⟩ :=
        finalize_settles documented ready listed given answers chain
      exact ⟨outcome, same, silent⟩
    · intro chain matrix finalised
      obtain ⟨outcome, same, _, good⟩ :=
        finalize_settles documented ready listed given answers chain
      rw [finalised] at same
      exact good matrix (Option.some.inj same).symm

end Settlement

/-! ## A run

An issuer without clients. The plan asks for the address of the metadata by a path that the run
is given, and for the login of the applicant. -/

/-- The escape of a byte in a text. -/
def escapeByte (byte : UInt8) : Bytes :=
  if byte = 34 || byte = 92 then [92, byte] else [byte]

/-- A text between quotes. The texts of the run hold no control characters. -/
def quote (text : String) : Bytes :=
  34 :: (text.toByteArray.data.toList.flatMap escapeByte ++ [34])

mutual

/-- The compact text of a value. -/
def compact : Json → Bytes
  | .null => [110, 117, 108, 108]
  | .bool value => if value then [116, 114, 117, 101] else [102, 97, 108, 115, 101]
  | .number (.natural value) => (Nat.toDigits 10 value).map fun c => c.val.toUInt8
  | .number (.negative value) => 45 :: (Nat.toDigits 10 value).map fun c => c.val.toUInt8
  | .number (.float value) => value.toByteArray.data.toList
  | .string value => quote value
  | .array values => 91 :: (compactEach [] values ++ [93])
  | .object members => 123 :: (compactMembers [] members ++ [125])

def compactEach : Bytes → List Json → Bytes
  | _, [] => []
  | comma, value :: values => comma ++ compact value ++ compactEach [44] values

def compactMembers : Bytes → Members → Bytes
  | _, [] => []
  | comma, (name, value) :: members =>
    comma ++ quote name ++ 58 :: compact value ++ compactMembers [44] members

end

def sampleIssuer : String := "https://issuer.example"

def sampleJwks : String := "\x7b\"keys\":[]\x7d"

/-- The SHA-256 digests of the texts of the run, which differ in the third byte: the request, the
user and the manifest. -/
def sampleDigest (bytes : Bytes) : String :=
  match (bytes.drop 2).head? with
  | some 113 => "c855e6e4abead0ac5e882a71d1f2e34a91dda1be243b32ad2c48d38f2a1086a8"
  | some 101 => "8feaa97dc764085c49196fdd3855df74af167095cafff8878586768e7bb26556"
  | _ => "d1b66a41017bb621c1f775b0e2d386ffde06ccff24987c4a09a62b6cf758fa23"

def sampleLibrary : Library where
  encode := compact
  decode text := if text = sampleJwks then some (.object [("keys", .array [])]) else none
  pem _ := none
  certificate _ := none
  url text := (stripPrefix sampleIssuer text).map fun path =>
    ⟨"https", "", none, some "issuer.example", if path = "" then "/" else path, none, none⟩
  loopback host := host = "127.0.0.1"
  digestHex := sampleDigest

def sampleDraws : Draws where
  applicantPassword := "9f2c61d07b3e4a58"
  applicantEmailId := "0198f2c0a1b27c3d8e4f5a6b7c8d9e0f"
  txCode := "493817"
  attestation _ _ := .error .crypto
  clientSecret _ := "5d0e7f1a2b3c4d5e"
  rsaJwks _ _ := .ok (sampleJwks, sampleJwks)
  ecJwks _ := .ok (sampleJwks, sampleJwks)
  mtls _ := .error .crypto

def sampleApplicant : String := "0198f2c0-a1b2-7c3d-8e4f-5a6b7c8d9e0f"

def sampleRevisionSha256 : String :=
  "e4e1c5f3d1f24c4e8f9a0b1c2d3e4f5061728394a5b6c7d8e9fa0b1c2d3e4f50"

def sampleProtocol : Protocol where
  kindName
    | .user => "user"
    | .oauthClient => "oauth_client"
    | .mtlsTrustAnchor => "mtls_trust_anchor"
    | .openid4vcDataset => "openid4vc_dataset"
    | .openid4vcTrustPolicy => "openid4vc_trust_policy"
  kindRank
    | .user => 0
    | .oauthClient => 1
    | .mtlsTrustAnchor => 2
    | .openid4vcDataset => 3
    | .openid4vcTrustPolicy => 4
  canonicalManifestSha256 _ := some sampleRevisionSha256
  validTrustPolicy _ := true
  trustPolicyValue _ := .null
  uuid value := if value = sampleApplicant then some value else none

def samplePlan (path : String) : DescriptorPlan where
  id := "config"
  plan := "oidcc-config-certification-test-plan"
  configTemplate := .object [
    ("server", .object [("discoveryUrl", .string ("\x7b\x7btarget.url." ++ path ++ "\x7d\x7d"))]),
    ("user", .object [("email", .string "\x7b\x7blogin\x7d\x7d")])]
  variant := []
  expectedResults := []
  requiredRoles := []
  secretBindings := [("login", "\x7b\x7bgenerated.applicant_email\x7d\x7d")]
  crypto := ⟨2048, "P-256", "ECDSA-P256-SHA256"⟩

def sampleDescriptor (path : String) : MatrixDescriptor where
  schema := 1
  source := ⟨"v5.1.36", String.ofList (List.replicate 64 'a')⟩
  openid4vcCredentialDatasets := []
  openid4vcSuiteMdocTrustAnchorPem := ""
  groups := [⟨"config", "basic", ⟨"default", []⟩, [], [samplePlan path]⟩]
  rawSha256 := some (String.ofList (List.replicate 64 'b'))

def sampleJti : String := "request-0198f2c0a1b27c3d8e4f5a6b7c8d9e0f"

def samplePrepare (path : String) : Except MaterializerError PreparedMaterialization :=
  prepareMaterialization sampleLibrary sampleDraws (sampleDescriptor path) sampleIssuer
    "https://suite.example" sampleJti none none

def samplePrepared (path : String) : PreparedMaterialization where
  descriptor := { sampleDescriptor path with rawSha256 := none }
  targetIssuer := sampleIssuer
  suiteBaseUrl := "https://suite.example"
  requestJti := sampleJti
  matrixSha256 := String.ofList (List.replicate 64 'b')
  applicantEmail := "oidf-" ++ "0198f2c0a1b27c3d8e4f5a6b7c8d9e0f" ++ "@example.invalid"
  applicantPassword := "9f2c61d07b3e4a58"
  txCode := none
  attestation := none
  dynamicRegistrationInitialAccessToken := none
  clients := []

/-! ### The manifest of the run -/

theorem utf8_bounded (text : List Char) :
    (String.ofList text).toByteArray.data.toList.length ≤ 4 * text.length := by
  rw [String.toByteArray_ofList, List.utf8Encode, List.data_toByteArray, List.toList_toArray]
  induction text with
  | nil => exact Nat.zero_le _
  | cons c rest hypothesis =>
    have one : (String.utf8EncodeChar c).length ≤ 4 := by
      rw [String.length_utf8EncodeChar]
      exact Char.utf8Size_le_four c
    rw [List.flatMap_cons, List.length_append, List.length_cons]
    omega

theorem escaped_bounded (bytes : Bytes) :
    (bytes.flatMap escapeByte).length ≤ 2 * bytes.length := by
  induction bytes with
  | nil => exact Nat.zero_le _
  | cons byte rest hypothesis =>
    have one : (escapeByte byte).length ≤ 2 := by
      unfold escapeByte
      split
      · exact Nat.le_refl 2
      · exact Nat.le_succ 1
    rw [List.flatMap_cons, List.length_append, List.length_cons]
    omega

theorem base64_bounded (bytes : Bytes) :
    (WireValues.base64 bytes).length ≤ 2 * bytes.length + 4 := by
  induction bytes using WireValues.base64.induct with
  | case1 => exact Nat.zero_le _
  | case2 a => exact Nat.le_add_left 4 _
  | case3 a b => exact Nat.le_add_left 4 _
  | case4 a b c rest hypothesis =>
    simp only [WireValues.base64, List.length_cons]
    omega

/-- The text of a payload is not much longer than the payload. -/
theorem payload_bounded (bytes : Bytes) :
    (quote (base64Url bytes)).length ≤ 16 * bytes.length + 34 := by
  have letters : (((WireValues.base64 bytes).filter (· ≠ '=')).map fun c =>
      if c = '+' then '-' else if c = '/' then '_' else c).length ≤ 2 * bytes.length + 4 := by
    rw [List.length_map]
    exact (List.length_filter_le _ _).trans (base64_bounded bytes)
  have size := utf8_bounded (((WireValues.base64 bytes).filter (· ≠ '=')).map fun c =>
    if c = '+' then '-' else if c = '/' then '_' else c)
  have escaped := escaped_bounded (base64Url bytes).toByteArray.data.toList
  rw [quote, List.length_cons, List.length_append, List.length_singleton]
  rw [base64Url] at escaped ⊢
  omega

theorem pushed_one {library : Library} (kind : TenantResourceKind) {id : String} {payload : Json}
    (named : validateResourceId id = .ok ())
    (plain : rejectManifestPrivateOrSuiteValue payload = .ok ())
    (short : (library.encode payload).length ≤ 512 * 1024) :
    pushManifestResources library 0 [⟨kind, id, .ok payload⟩] =
      .ok [⟨kind, id, base64Url (library.encode payload),
        library.digestHex (library.encode payload)⟩] := by
  refine bind_ok.mpr ⟨(_, 0 + (library.encode payload).length), ?_, rfl⟩
  refine bind_ok.mpr ⟨payload, rfl, bind_ok.mpr ⟨(), named, bind_ok.mpr ⟨(), plain, ?_⟩⟩⟩
  refine bind_ok.mpr ⟨(), check_ok.mpr short, bind_ok.mpr ⟨(), check_ok.mpr ?_, rfl⟩⟩
  omega

def sampleUsername : String := "oidf-0198f2c0a1b27c3d8e4f5a6b7c8d9e0f"

def samplePayload : Json := userPayload (samplePrepared "") sampleUsername

def sampleUser : TenantResourceManifestResource where
  kind := .user
  resourceId := "user-applicant-run-c855e6e4abead0ac5e882a71d1f2e34a"
  payloadBase64Url := base64Url (compact samplePayload)
  digest := "8feaa97dc764085c49196fdd3855df74af167095cafff8878586768e7bb26556"

theorem samplePayload_short : (compact samplePayload).length ≤ 1000 := by decide +kernel

theorem sample_userId :
    runScopedResourceId sampleLibrary "user" "applicant"
      (runNamespaceSuffix sampleLibrary sampleJti) = sampleUser.resourceId := by
  decide

theorem sample_entries (path : String) :
    runEntries sampleLibrary sampleProtocol (samplePrepared path) sampleUsername =
      [⟨.user, sampleUser.resourceId, .ok samplePayload⟩] := by
  have jti : (samplePrepared path).requestJti = sampleJti := rfl
  have payload : userPayload (samplePrepared path) sampleUsername = samplePayload := by
    rw [samplePayload, userPayload, userPayload]
    rfl
  have clients : (samplePrepared path).clients = [] := rfl
  have datasets : (samplePrepared path).descriptor.openid4vcCredentialDatasets = [] := rfl
  have policy (suffix : String) :
      trustPolicyEntries sampleLibrary sampleProtocol (samplePrepared path) suffix = [] := rfl
  rw [runEntries, jti, manifestEntries, sample_userId, payload, clients, datasets, policy]
  rfl

theorem sample_pushed (path : String) :
    pushManifestResources sampleLibrary 0
      (runEntries sampleLibrary sampleProtocol (samplePrepared path) sampleUsername) =
        .ok [sampleUser] := by
  have digest : sampleDigest (compact samplePayload) = sampleUser.digest := by decide
  have named : validateResourceId sampleUser.resourceId = .ok () := by decide
  have plain : rejectManifestPrivateOrSuiteValue samplePayload = .ok () := by decide
  have short : (sampleLibrary.encode samplePayload).length ≤ 512 * 1024 :=
    samplePayload_short.trans (by decide)
  have pushed := pushed_one .user named plain short
  rw [sample_entries, pushed]
  change Except.ok [TenantResourceManifestResource.mk .user sampleUser.resourceId
    (base64Url (compact samplePayload)) (sampleDigest (compact samplePayload))] = _
  rw [digest]
  rfl

def sampleManifest : TenantResourceManifest where
  resources := [sampleUser]
  bytes := compact (manifestDocument sampleProtocol [sampleUser])
  rawSha256 := sampleDigest (compact (manifestDocument sampleProtocol [sampleUser]))
  identities := [identityOf sampleUser]
  resourceManifestSha256 := sampleRevisionSha256

/-- The document of one user. -/
theorem document_size (id payload digest : String) :
    (compact (manifestDocument sampleProtocol [⟨.user, id, payload, digest⟩])).length =
      (quote id).length + (quote payload).length + 78 := by
  have texts : (quote "kind").length = 6 ∧ (quote "resource_id").length = 13 ∧
      (quote "payload_base64url").length = 19 ∧ (quote "schema").length = 8 ∧
      (quote "resources").length = 11 ∧ (quote "user").length = 6 ∧
      (Nat.toDigits 10 1).length = 1 := by
    decide
  have kind : sampleProtocol.kindName .user = "user" := rfl
  simp only [manifestDocument, resourceValue, kind, List.map_cons, List.map_nil, compact,
    compactEach, compactMembers, List.length_cons, List.length_append, List.length_nil,
    List.length_map, texts]
  omega

theorem sample_listed (path : String) :
    tenantResourceManifest sampleLibrary sampleProtocol (samplePrepared path)
      (samplePrepared path).requestJti = .ok sampleManifest := by
  have size : (compact (manifestDocument sampleProtocol [sampleUser])).length ≤
      4 * 1024 * 1024 := by
    have payload := payload_bounded (compact samplePayload)
    have short := samplePayload_short
    have id : (quote sampleUser.resourceId).length = 53 := by decide
    have whole := document_size sampleUser.resourceId (base64Url (compact samplePayload))
      sampleUser.digest
    rw [id] at whole
    have bound : 53 + (quote (base64Url (compact samplePayload))).length + 78 ≤
        4 * 1024 * 1024 := by
      generalize (quote (base64Url (compact samplePayload))).length = length at payload ⊢
      generalize (compact samplePayload).length = size at payload short
      omega
    exact whole.le.trans bound
  have parts : splitOnce '@' (samplePrepared path).applicantEmail =
      some (sampleUsername, "example.invalid") := by
    change splitOnce '@' ("oidf-" ++ "0198f2c0a1b27c3d8e4f5a6b7c8d9e0f" ++ "@example.invalid") = _
    decide
  refine bind_ok.mpr ⟨(), check_ok.mpr rfl, ?_⟩
  rw [parts]
  refine bind_ok.mpr ⟨[sampleUser], sample_pushed path, ?_⟩
  exact bind_ok.mpr ⟨(), check_ok.mpr size, rfl⟩

/-- A result that applies the manifest. -/
def sampleResult : ControlResult where
  operationId := "apply-1"
  requestHash := String.ofList (List.replicate 64 'c')
  outcome := .succeeded
  apply := some {
    revision := 7
    resources := [identityOf sampleUser]
    resourceMappings := [⟨.user, sampleUser.resourceId, sampleApplicant⟩]
    resourceManifestSha256 := sampleRevisionSha256 }

def sampleOutput : TenantResourceApplyOutput where
  operationId := "apply-1"
  requestHash := String.ofList (List.replicate 64 'c')
  controllerKid := "controller-1"
  revision := 7
  resourceManifestSha256 := sampleRevisionSha256
  resourceMappings := [⟨.user, sampleUser.resourceId, sampleApplicant⟩]
  deltaResources := [identityOf sampleUser]
  finalActiveResources := [identityOf sampleUser]

theorem sample_accepted : TenantResourceApplyOutput.fromControlResult sampleProtocol sampleResult
    "apply-1" (String.ofList (List.replicate 64 'c')) "controller-1" sampleManifest
      [identityOf sampleUser] = .ok sampleOutput := by
  rfl

theorem sampleDocumented : Documented sampleLibrary sampleDraws where
  blank := by
    change (if "" = sampleJwks then some (Json.object [("keys", .array [])]) else none) = none
    rw [if_neg (by decide)]
  rsa logical bits jwks drawn := by
    cases drawn
    exact ⟨rfl, rfl⟩
  ec logical jwks drawn := by
    cases drawn
    exact ⟨rfl, rfl⟩
  mtls logical made drawn := by cases drawn
  secret _ := by
    change "5d0e7f1a2b3c4d5e" ≠ ""
    decide
  attestation origin country material drawn := by cases drawn

theorem sample_prepared : samplePrepare "/.well-known/openid-configuration" =
    .ok (samplePrepared "/.well-known/openid-configuration") := by
  rfl

theorem sample_prepared_relative : samplePrepare ".well-known/openid-configuration" =
    .ok (samplePrepared ".well-known/openid-configuration") := by
  rfl

/-- With a path from the root, everything resolves. -/
theorem sample_resolves : Resolves sampleLibrary sampleProtocol
    (samplePrepared "/.well-known/openid-configuration") sampleOutput := by
  refine (descriptor_resolves sampleDocumented sample_prepared (sample_listed _)
    sample_accepted).mpr ?_
  have answers : (samplePrepared "/.well-known/openid-configuration").descriptor.plans.all
      (fun plan => (references plan).all fun name => (aliasOf plan.secretBindings name).isSome ||
        answerable sampleLibrary (samplePrepared "/.well-known/openid-configuration")
          (readReference name)) = true := by
    decide
  intro plan inside name referred unbound
  have own := List.all_eq_true.mp (List.all_eq_true.mp answers plan inside) name referred
  rw [unbound] at own
  exact own

/-- With a path that does not start at the root, the descriptor is accepted, prepared and applied,
and the placeholder of the path is found invalid by finalisation alone. -/
theorem sample_unanswered :
    samplePrepare ".well-known/openid-configuration" =
        .ok (samplePrepared ".well-known/openid-configuration") ∧
      tenantResourceManifest sampleLibrary sampleProtocol
        (samplePrepared ".well-known/openid-configuration") sampleJti = .ok sampleManifest ∧
      TenantResourceApplyOutput.fromControlResult sampleProtocol sampleResult
        "apply-1" (String.ofList (List.replicate 64 'c')) "controller-1" sampleManifest
          [identityOf sampleUser] = .ok sampleOutput ∧
      (∀ bindings, resolveReference sampleLibrary
          (samplePlan ".well-known/openid-configuration").secretBindings
          (samplePrepared ".well-known/openid-configuration") bindings
          "target.url..well-known/openid-configuration" = some (.error .invalidPlaceholder)) ∧
      ¬Resolves sampleLibrary sampleProtocol (samplePrepared ".well-known/openid-configuration")
        sampleOutput := by
  have unresolved : ∀ bindings, resolveReference sampleLibrary
      (samplePlan ".well-known/openid-configuration").secretBindings
      (samplePrepared ".well-known/openid-configuration") bindings
      "target.url..well-known/openid-configuration" = some (.error .invalidPlaceholder) := by
    intro bindings
    have ends : endOfChain (samplePlan ".well-known/openid-configuration").secretBindings
        "target.url..well-known/openid-configuration" =
          some (.ok "target.url..well-known/openid-configuration") :=
      endOfChain_unbound (by decide)
    have read : readReference "target.url..well-known/openid-configuration" =
        .targetUrl ".well-known/openid-configuration" := by decide
    have relative : plainPath ".well-known/openid-configuration" false
        (addressPath ".well-known/openid-configuration" false).1 = false := by decide
    rw [resolveReference, ends, Option.map_some]
    refine congrArg some ?_
    change resolveName sampleLibrary (samplePrepared ".well-known/openid-configuration") bindings
      "target.url..well-known/openid-configuration" = _
    rw [resolveName, read]
    simp only
    rw [resolveTargetUrl, relative]
    rfl
  refine ⟨sample_prepared_relative, sample_listed _, sample_accepted, unresolved, ?_⟩
  intro resolves
  obtain ⟨bindings, binds⟩ := resolves.bound
  have plan : samplePlan ".well-known/openid-configuration" ∈
      (samplePrepared ".well-known/openid-configuration").descriptor.plans := List.mem_cons_self
  have named : "target.url..well-known/openid-configuration" ∈
      references (samplePlan ".well-known/openid-configuration") := by decide
  obtain ⟨value, resolved⟩ := resolves.resolved bindings binds _ plan _ named
  rw [unresolved bindings] at resolved
  cases resolved

end NazoAuthCtl.MatrixSettlement
