import NazoAuthCtl.Materializer

/-!
# References that resolve after the resources were applied

A descriptor is accepted and a run is prepared for it before the target holds anything; the
references are resolved when it does. This module says of which references the checks of a
descriptor leave open whether they will resolve, and that all others do: their chains end,
their values were generated, and a configuration is its template with each placeholder replaced
once.
-/

set_option autoImplicit false
set_option linter.all false

namespace NazoAuthCtl.MatrixResolution

open Checks JsonValue MatrixReferences MatrixDescriptors MatrixTemplates Materializer

/-! ## The references of a plan -/

mutual

/-- The texts of a tree. -/
def textsOf : Json → List String
  | .array values => textsOfValues values
  | .object members => textsOfMembers members
  | .string text => [text]
  | _ => []

def textsOfValues : List Json → List String
  | [] => []
  | value :: values => textsOf value ++ textsOfValues values

def textsOfMembers : Members → List String
  | [] => []
  | (_, value) :: members => textsOf value ++ textsOfMembers members

end

/-- The names in the placeholders of a plan: those of its template and of its aliases. -/
def references (plan : DescriptorPlan) : List String :=
  (textsOf plan.configTemplate ++ plan.secretBindings.map (·.2)).filterMap fun text =>
    (parsePlaceholder text).toOption

theorem mem_references {plan : DescriptorPlan} {name : String} :
    name ∈ references plan ↔
      ∃ text, (text ∈ textsOf plan.configTemplate ∨ text ∈ plan.secretBindings.map (·.2)) ∧
        parsePlaceholder text = .ok name := by
  rw [references, List.mem_filterMap]
  constructor
  · rintro ⟨text, inside, parsed⟩
    refine ⟨text, List.mem_append.mp inside, ?_⟩
    cases found : parsePlaceholder text with
    | error error =>
      rw [found] at parsed
      cases parsed
    | ok other =>
      rw [found] at parsed
      cases parsed
      rfl
  · rintro ⟨text, inside, parsed⟩
    refine ⟨text, List.mem_append.mpr inside, ?_⟩
    rw [parsed]
    rfl

/-! ## What a check of a tree says of its texts -/

section Trees

variable {entry : String → Json → Except MaterializerError Unit}
  {leaf : String → Except MaterializerError Unit}

mutual

theorem checkTree_texts : ∀ {value : Json}, checkTree entry leaf value = .ok () →
    ∀ text ∈ textsOf value, leaf text = .ok ()
  | .array _, passed, text, inside => checkTrees_texts passed text inside
  | .object _, passed, text, inside => checkMembers_texts passed text inside
  | .string _, passed, _, inside => List.mem_singleton.mp inside ▸ passed
  | .null, _, _, inside => absurd inside List.not_mem_nil
  | .bool _, _, _, inside => absurd inside List.not_mem_nil
  | .number _, _, _, inside => absurd inside List.not_mem_nil

theorem checkTrees_texts : ∀ {values : List Json}, checkTrees entry leaf values = .ok () →
    ∀ text ∈ textsOfValues values, leaf text = .ok ()
  | [], _, _, inside => absurd inside List.not_mem_nil
  | value :: values, passed, text, inside => by
    obtain ⟨_, first, rest⟩ := bind_ok.mp passed
    rcases List.mem_append.mp inside with here | there
    · exact checkTree_texts first text here
    · exact checkTrees_texts rest text there

theorem checkMembers_texts : ∀ {members : Members}, checkMembers entry leaf members = .ok () →
    ∀ text ∈ textsOfMembers members, leaf text = .ok ()
  | [], _, _, inside => absurd inside List.not_mem_nil
  | (key, value) :: members, passed, text, inside => by
    obtain ⟨_, _, passed⟩ := bind_ok.mp passed
    obtain ⟨_, first, rest⟩ := bind_ok.mp passed
    rcases List.mem_append.mp inside with here | there
    · exact checkTree_texts first text here
    · exact checkMembers_texts rest text there

end

end Trees

/-! ## What an accepted descriptor establishes -/

section Accepted

variable {library : Library} {descriptor : MatrixDescriptor}
  {clients : List (String × ClientRegistration)}

theorem validatePlans_each {roles : List RoleRequirement} {plans : List DescriptorPlan}
    {seen after : List String} (passed : validatePlans roles seen plans = .ok after) :
    ∀ plan ∈ plans, ∃ seen, validatePlan roles seen plan = .ok () := by
  induction plans generalizing seen with
  | nil =>
    intro plan inside
    cases inside
  | cons first rest hypothesis =>
    obtain ⟨_, valid, passed⟩ := bind_ok.mp passed
    intro plan inside
    rcases List.mem_cons.mp inside with rfl | later
    · exact ⟨seen, valid⟩
    · exact hypothesis passed plan later

theorem validateGroups_each {groups : List DescriptorGroup} {ids plans : List String}
    (passed : validateGroups ids plans groups = .ok ()) :
    ∀ plan ∈ groups.flatMap (·.plans), ∃ roles seen, validatePlan roles seen plan = .ok () := by
  induction groups generalizing ids plans with
  | nil =>
    intro plan inside
    cases inside
  | cons group rest hypothesis =>
    obtain ⟨_, _, passed⟩ := bind_ok.mp passed
    obtain ⟨_, _, passed⟩ := bind_ok.mp passed
    obtain ⟨_, _, passed⟩ := bind_ok.mp passed
    obtain ⟨_, _, passed⟩ := bind_ok.mp passed
    obtain ⟨_, _, passed⟩ := bind_ok.mp passed
    obtain ⟨_, _, passed⟩ := bind_ok.mp passed
    obtain ⟨after, valid, passed⟩ := bind_ok.mp passed
    intro plan inside
    rw [List.flatMap_cons] at inside
    rcases List.mem_append.mp inside with here | later
    · exact ⟨_, validatePlans_each valid plan here⟩
    · exact hypothesis passed plan later

theorem validatePlanClients_each {names : List String} {plans : List DescriptorPlan}
    (passed : validatePlanClients names plans = .ok ()) :
    ∀ plan ∈ plans,
      validateTemplateClients plan.configTemplate plan.secretBindings names = .ok () ∧
        validateBindingClients plan names plan.secretBindings = .ok () := by
  induction plans with
  | nil =>
    intro plan inside
    cases inside
  | cons first rest hypothesis =>
    obtain ⟨_, template, passed⟩ := bind_ok.mp passed
    obtain ⟨_, bindings, passed⟩ := bind_ok.mp passed
    intro plan inside
    rcases List.mem_cons.mp inside with rfl | later
    · exact ⟨template, bindings⟩
    · exact hypothesis passed plan later

/-- What validation says of each plan. -/
structure PlanAccepted (clients : List (String × ClientRegistration)) (plan : DescriptorPlan) :
    Prop where
  bindings : validateBindings plan plan.secretBindings = .ok ()
  template : validateValueTemplate plan.configTemplate = .ok ()
  references : validateTemplateReferences plan.configTemplate plan.secretBindings = .ok ()
  templateClients : validateTemplateClients plan.configTemplate plan.secretBindings
    (SortedMap.keys clients) = .ok ()
  bindingClients : validateBindingClients plan (SortedMap.keys clients) plan.secretBindings =
    .ok ()

theorem descriptor_plans (accepted : validateDescriptor library descriptor = .ok clients) :
    (∀ plan ∈ descriptor.plans, PlanAccepted clients plan) ∧
      collectClientRegistrations descriptor = .ok clients := by
  unfold validateDescriptor at accepted
  obtain ⟨_, _, accepted⟩ := bind_ok.mp accepted
  obtain ⟨_, _, accepted⟩ := bind_ok.mp accepted
  obtain ⟨_, _, accepted⟩ := bind_ok.mp accepted
  obtain ⟨_, _, accepted⟩ := bind_ok.mp accepted
  obtain ⟨_, _, accepted⟩ := bind_ok.mp accepted
  obtain ⟨_, groups, accepted⟩ := bind_ok.mp accepted
  obtain ⟨_, _, accepted⟩ := bind_ok.mp accepted
  obtain ⟨registered, collected, accepted⟩ := bind_ok.mp accepted
  obtain ⟨_, referenced, accepted⟩ := bind_ok.mp accepted
  cases accepted
  refine ⟨?_, collected⟩
  intro plan inside
  obtain ⟨roles, seen, valid⟩ := validateGroups_each groups plan inside
  obtain ⟨templateClients, bindingClients⟩ := validatePlanClients_each referenced plan inside
  unfold validatePlan at valid
  obtain ⟨_, _, valid⟩ := bind_ok.mp valid
  obtain ⟨_, _, valid⟩ := bind_ok.mp valid
  obtain ⟨_, _, valid⟩ := bind_ok.mp valid
  obtain ⟨_, _, valid⟩ := bind_ok.mp valid
  obtain ⟨_, _, valid⟩ := bind_ok.mp valid
  obtain ⟨_, _, valid⟩ := bind_ok.mp valid
  obtain ⟨_, _, valid⟩ := bind_ok.mp valid
  obtain ⟨_, _, valid⟩ := bind_ok.mp valid
  obtain ⟨_, bindings, valid⟩ := bind_ok.mp valid
  obtain ⟨_, template, valid⟩ := bind_ok.mp valid
  obtain ⟨_, _, valid⟩ := bind_ok.mp valid
  obtain ⟨_, references, valid⟩ := bind_ok.mp valid
  exact ⟨bindings, template, references, templateClients, bindingClients⟩

end Accepted

/-! ## The chains of an accepted plan -/

section Chains

variable {clients : List (String × ClientRegistration)} {plan : DescriptorPlan}

theorem checkReference_parsed {reference : String → Except MaterializerError Unit}
    {text name : String} (parsed : parsePlaceholder text = .ok name) :
    checkReference reference text = reference name := by
  rw [checkReference, parsed]

theorem validateBindings_each {entries : List (String × String)}
    (passed : validateBindings plan entries = .ok ()) :
    ∀ text ∈ entries.map (·.2), ∃ name, parsePlaceholder text = .ok name ∧
      validateBindingReference plan.secretBindings name = .ok () := by
  induction entries with
  | nil =>
    intro text inside
    cases inside
  | cons entry rest hypothesis =>
    obtain ⟨_, _, passed⟩ := bind_ok.mp passed
    obtain ⟨name, parsed, passed⟩ := bind_ok.mp passed
    obtain ⟨_, valid, passed⟩ := bind_ok.mp passed
    intro text inside
    rcases List.mem_cons.mp inside with rfl | later
    · exact ⟨name, parsed, valid⟩
    · exact hypothesis passed text later

theorem validateBindingClients_each {names : List String} {entries : List (String × String)}
    (passed : validateBindingClients plan names entries = .ok ()) :
    ∀ text ∈ entries.map (·.2), ∃ name, parsePlaceholder text = .ok name ∧
      validateReferenceClient plan.secretBindings names name = .ok () := by
  induction entries with
  | nil =>
    intro text inside
    cases inside
  | cons entry rest hypothesis =>
    obtain ⟨name, parsed, passed⟩ := bind_ok.mp passed
    obtain ⟨_, valid, passed⟩ := bind_ok.mp passed
    intro text inside
    rcases List.mem_cons.mp inside with rfl | later
    · exact ⟨name, parsed, valid⟩
    · exact hypothesis passed text later

/-- Each reference of an accepted plan passed both walks. -/
theorem references_checked (accepted : PlanAccepted clients plan) {name : String}
    (inside : name ∈ references plan) :
    validateBindingReference plan.secretBindings name = .ok () ∧
      validateReferenceClient plan.secretBindings (SortedMap.keys clients) name = .ok () := by
  obtain ⟨text, found, parsed⟩ := mem_references.mp inside
  rcases found with template | binding
  · have first := checkTree_texts accepted.references text template
    have second := checkTree_texts accepted.templateClients text template
    rw [checkReference_parsed parsed] at first second
    exact ⟨first, second⟩
  · obtain ⟨one, sameOne, first⟩ := validateBindings_each accepted.bindings text binding
    obtain ⟨two, sameTwo, second⟩ :=
      validateBindingClients_each accepted.bindingClients text binding
    rw [parsed] at sameOne sameTwo
    cases sameOne
    cases sameTwo
    exact ⟨first, second⟩

theorem reference_blankless {name : String} (inside : name ∈ references plan) :
    blankless name = true := by
  obtain ⟨text, _, parsed⟩ := mem_references.mp inside
  exact parsePlaceholder_blankless parsed

/-- The chain of a reference of an accepted plan ends, at a name that both checks let pass. -/
theorem chain_ends (accepted : PlanAccepted clients plan) {name : String}
    (inside : name ∈ references plan) :
    ∃ last, endOfChain plan.secretBindings name = some (.ok last) ∧
      isBuiltinReference last = true ∧
      checkClient (SortedMap.keys clients) last = .ok () := by
  obtain ⟨binding, client⟩ := references_checked accepted inside
  obtain ⟨last, reached, _, builtin, _⟩ :=
    walk_follow (fun _ plain => trim_blankless plain) binding
  obtain ⟨other, again, _, known, _⟩ := walk_follow (fun _ _ => rfl) client
  rw [trim_blankless (reference_blankless inside)] at reached
  rw [reached] at again
  cases again
  refine ⟨last, reached, ?_, known⟩
  rw [checkBuiltin] at builtin
  by_contra unknown
  rw [if_neg unknown] at builtin
  cases builtin

theorem nested_reference {name text nested : String}
    (named : aliasOf plan.secretBindings name = some text)
    (parsed : parsePlaceholder text = .ok nested) : nested ∈ references plan :=
  mem_references.mpr ⟨text,
    .inr (List.mem_map.mpr ⟨_, SortedMap.mem_of_get named, rfl⟩), parsed⟩

/-- The end of a chain is itself a reference of the plan. -/
theorem follow_reference {fuel : ℕ} {name last : String} (inside : name ∈ references plan)
    (reached : follow plan.secretBindings fuel name = some (.ok last)) :
    last ∈ references plan := by
  induction fuel generalizing name with
  | zero => cases reached
  | succ fuel hypothesis =>
    rw [follow] at reached
    cases named : aliasOf plan.secretBindings name with
    | none =>
      rw [named] at reached
      cases reached
      exact inside
    | some text =>
      rw [named] at reached
      simp only at reached
      cases parsed : parsePlaceholder text with
      | error error =>
        rw [parsed] at reached
        cases reached
      | ok nested =>
        rw [parsed] at reached
        exact hypothesis (nested_reference named parsed) reached

mutual

theorem valueContains_text {reference : String} : ∀ {value : Json} {text : String},
    text ∈ textsOf value → parsePlaceholder text = .ok reference →
      valueContainsReference reference value = true
  | .array _, _, inside, parsed => valuesContain_text inside parsed
  | .object _, _, inside, parsed => membersContain_text inside parsed
  | .string own, text, inside, parsed => by
    rw [textsOf, List.mem_singleton] at inside
    subst inside
    rw [valueContainsReference, parsed]
    exact decide_eq_true rfl
  | .null, _, inside, _ => absurd inside List.not_mem_nil
  | .bool _, _, inside, _ => absurd inside List.not_mem_nil
  | .number _, _, inside, _ => absurd inside List.not_mem_nil

theorem valuesContain_text {reference : String} : ∀ {values : List Json} {text : String},
    text ∈ textsOfValues values → parsePlaceholder text = .ok reference →
      valuesContainReference reference values = true
  | [], _, inside, _ => absurd inside List.not_mem_nil
  | value :: values, text, inside, parsed => by
    rw [valuesContainReference, Bool.or_eq_true]
    rcases List.mem_append.mp inside with here | there
    · exact .inl (valueContains_text here parsed)
    · exact .inr (valuesContain_text there parsed)

theorem membersContain_text {reference : String} : ∀ {members : Members} {text : String},
    text ∈ textsOfMembers members → parsePlaceholder text = .ok reference →
      membersContainReference reference members = true
  | [], _, inside, _ => absurd inside List.not_mem_nil
  | (key, value) :: members, text, inside, parsed => by
    rw [membersContainReference, Bool.or_eq_true]
    rcases List.mem_append.mp inside with here | there
    · exact .inl (valueContains_text here parsed)
    · exact .inr (membersContain_text there parsed)

end

/-- The textual search of the preparation finds every reference of a plan. -/
theorem reference_required {descriptor : MatrixDescriptor} (listed : plan ∈ descriptor.plans)
    {name : String} (inside : name ∈ references plan) :
    descriptorRequiresReference descriptor name = true := by
  obtain ⟨group, within, listed⟩ := List.mem_flatMap.mp listed
  refine List.any_eq_true.mpr ⟨group, within, ?_⟩
  rw [Bool.or_eq_true]
  refine .inr (List.any_eq_true.mpr ⟨plan, listed, ?_⟩)
  obtain ⟨text, found, parsed⟩ := mem_references.mp inside
  rw [planRequires, Bool.or_eq_true, Bool.or_eq_true]
  rcases found with template | binding
  · exact .inl (.inl (valueContains_text template parsed))
  · obtain ⟨entry, there, rfl⟩ := List.mem_map.mp binding
    refine .inl (.inr (List.any_eq_true.mpr ⟨entry, there, ?_⟩))
    rw [parsed]
    exact decide_eq_true rfl

end Chains

/-! ## What the end of a chain stands for -/

section Names

theorem readReference_client {name reference : String}
    (read : readReference name = .client reference) : name = "client." ++ reference := by
  unfold readReference at read
  repeat' split at read
  all_goals cases read
  next _ found => exact (stripPrefix_some found).2

theorem readReference_generated {name field : String}
    (read : readReference name = .generated field) : name = "generated." ++ field := by
  unfold readReference at read
  repeat' split at read
  all_goals cases read
  next _ found => exact (stripPrefix_some found).2

theorem readReference_onlyClient {name field : String}
    (read : readReference name = .onlyClient field) :
    (name = "onboarding.client_id" ∧ field = "id") ∨
      (name = "onboarding.client_secret" ∧ field = "client_secret") := by
  unfold readReference at read
  repeat' split at read
  all_goals first
    | (cases read; done)
    | skip
  · next same =>
    cases read
    exact .inl ⟨same, rfl⟩
  · next same =>
    cases read
    exact .inr ⟨same, rfl⟩

theorem readReference_token {name : String} (read : readReference name = .initialAccessToken) :
    name = accessToken := by
  unfold readReference at read
  repeat' split at read
  all_goals first
    | (cases read; done)
    | assumption

theorem readReference_unknown {name : String} (read : readReference name = .unknown) :
    ∀ part ∈ builtinPrefixes, startsWith part name = false := by
  unfold readReference at read
  repeat' split at read
  all_goals first
    | (cases read; done)
    | skip
  next _ url _ pattern _ suitePattern _ runAlias _ suiteTest _ suiteTestQuery _ _ _ _ _ _ _ _ _
      client _ _ =>
    intro part inside
    simp only [builtinPrefixes, List.mem_cons, List.not_mem_nil, or_false] at inside
    rcases inside with rfl | rfl | rfl | rfl | rfl | rfl | rfl
    · exact stripPrefix_none client
    · exact stripPrefix_none url
    · exact stripPrefix_none pattern
    · exact stripPrefix_none runAlias
    · exact stripPrefix_none suiteTest
    · exact stripPrefix_none suiteTestQuery
    · exact stripPrefix_none suitePattern

/-- The fields of a client that a name can ask of the only one. -/
def generatedFields : List String :=
  ["client_secret", "rsa.private_jwks", "rsa.public_jwks", "ec.private_jwks", "ec.public_jwks",
    "mtls.ca_cert", "mtls.client_cert", "mtls.client_key", "mtls.cert_sha256"]

/-- Whether a name from the list of the check is read as one that the resolver knows. -/
def readAsKnown (name : String) : Bool :=
  match readReference name with
  | .generated field => generatedFields.contains field
  | .unknown => false
  | _ => true

theorem builtinNames_known : ∀ name ∈ builtinNames, readAsKnown name = true := by
  decide

theorem builtin_apart : ∀ part ∈ builtinPrefixes,
    (startsWith part "generated." || startsWith "generated." part) = false := by
  decide

/-- The resolver knows every name that the check lets pass. -/
theorem builtin_known {name : String} (builtin : isBuiltinReference name = true) :
    readAsKnown name = true := by
  rw [isBuiltinReference, Bool.or_eq_true] at builtin
  rcases builtin with listed | prefixed
  · exact builtinNames_known name (List.contains_iff_mem.mp listed)
  · obtain ⟨part, listed, starts⟩ := List.any_eq_true.mp prefixed
    rw [readAsKnown]
    split
    · next field read =>
      have generated : startsWith "generated." name = true := by
        rw [readReference_generated read, startsWith, String.toList_append]
        exact List.isPrefixOf_iff_prefix.mpr (List.prefix_append _ _)
      rw [startsWith_apart starts (builtin_apart part listed)] at generated
      cases generated
    · next read =>
      rw [readReference_unknown read part listed] at starts
      cases starts
    · rfl

end Names

/-! ## Prepared clients -/

section Clients

variable {library : Library} {draws : Draws}

/-- What the sources of a run's material give: texts of JSON documents, texts that are not
empty, and no document that is. -/
structure Documented (library : Library) (draws : Draws) : Prop where
  blank : library.decode "" = none
  rsa : ∀ logical bits jwks, draws.rsaJwks logical bits = .ok jwks →
    (library.decode jwks.1).isSome ∧ (library.decode jwks.2).isSome
  ec : ∀ logical jwks, draws.ecJwks logical = .ok jwks →
    (library.decode jwks.1).isSome ∧ (library.decode jwks.2).isSome
  mtls : ∀ logical made, draws.mtls logical = .ok made →
    made.1 ≠ "" ∧ made.2.1 ≠ "" ∧ made.2.2.1 ≠ "" ∧ made.2.2.2 ≠ ""
  secret : ∀ logical, draws.clientSecret logical ≠ ""
  attestation : ∀ origin country material, draws.attestation origin country = .ok material →
    (library.decode material.attesterPrivateJwks).isSome ∧
      (library.decode material.keyAttestationPrivateJwks).isSome ∧
      (library.decode material.credentialSigningPrivateJwk).isSome

/-- Whether the descriptor names a field of a client, by its id or as the only one. -/
def Named (descriptor : MatrixDescriptor) (logical field : String) : Prop :=
  descriptorRequiresReference descriptor ("client." ++ logical ++ "." ++ field) = true ∨
    descriptorRequiresReference descriptor ("generated." ++ field) = true

/-- A client keeps its secret if it authenticates by one. -/
def hasSecret (client : PreparedClient) : Bool :=
  (textField client.request "token_endpoint_auth_method").any secretMethods.contains

/-- What was generated for a client. -/
structure Made (draws : Draws) (descriptor : MatrixDescriptor) (logical : String)
    (client : PreparedClient) : Prop where
  secret : client.clientSecret = if hasSecret client then draws.clientSecret logical else ""
  rsa : (∃ field ∈ rsaFields, Named descriptor logical field) →
    ∃ bits, draws.rsaJwks logical bits = .ok (client.rsaPrivateJwks, client.rsaPublicJwks)
  ec : (∃ field ∈ ecFields, Named descriptor logical field) →
    draws.ecJwks logical = .ok (client.ecPrivateJwks, client.ecPublicJwks)
  mtls : (∃ field ∈ mtlsFields, Named descriptor logical field) →
    draws.mtls logical = .ok (client.mtlsCaCertificate, client.mtlsClientCertificate,
      client.mtlsClientKey, client.mtlsClientCertificateSha256)

theorem needs_named {descriptor : MatrixDescriptor} {logical : String} {template : Json}
    {fields : List String} (named : ∃ field ∈ fields, Named descriptor logical field) :
    needs descriptor logical template fields = true := by
  obtain ⟨field, listed, named⟩ := named
  refine List.any_eq_true.mpr ⟨field, listed, ?_⟩
  rw [Bool.or_eq_true]
  refine .inl ?_
  rcases named with own | only
  · refine List.any_eq_true.mpr ⟨_, List.mem_cons_self, ?_⟩
    rw [own, Bool.true_or]
  · refine List.any_eq_true.mpr ⟨_, List.mem_cons_of_mem _ List.mem_cons_self, ?_⟩
    rw [only, Bool.true_or]

theorem client_made {descriptor : MatrixDescriptor} {logical issuer origin jti : String}
    {registration : ClientRegistration} {client : PreparedClient}
    (made : PreparedClient.new library draws descriptor logical registration issuer origin jti =
      .ok client) : Made draws descriptor logical client := by
  unfold PreparedClient.new at made
  obtain ⟨generated, crypto, made⟩ := bind_ok.mp made
  obtain ⟨_, _, made⟩ := bind_ok.mp made
  obtain ⟨request, _, made⟩ := bind_ok.mp made
  obtain ⟨_, _, made⟩ := bind_ok.mp made
  unfold generateClientCrypto at crypto
  obtain ⟨rsa, rsaMade, crypto⟩ := bind_ok.mp crypto
  obtain ⟨ec, ecMade, crypto⟩ := bind_ok.mp crypto
  obtain ⟨mtls, mtlsMade, crypto⟩ := bind_ok.mp crypto
  cases crypto
  cases method : textField request "token_endpoint_auth_method" with
  | none =>
    rw [method] at made
    cases made
  | some name =>
    rw [method] at made
    cases made
    refine ⟨?_, ?_, ?_, ?_⟩
    · rw [hasSecret, method, Option.any_some]
      by_cases listed : name ∈ secretMethods
      · rw [if_pos listed, if_pos (List.contains_iff_mem.mpr listed)]
      · rw [if_neg listed, if_neg fun inside => listed (List.contains_iff_mem.mp inside)]
    · intro named
      rw [whenNeeded, if_pos (needs_named named)] at rsaMade
      exact ⟨_, rsaMade⟩
    · intro named
      rw [whenNeeded, if_pos (needs_named named)] at ecMade
      exact ecMade
    · intro named
      rw [whenNeeded, if_pos (by rw [needs_named named, Bool.or_true])] at mtlsMade
      exact mtlsMade

theorem clients_made {descriptor : MatrixDescriptor} {issuer origin jti : String}
    {registrations : List (String × ClientRegistration)}
    {clients : List (String × PreparedClient)}
    (prepared : prepareClients library draws descriptor issuer origin jti registrations =
      .ok clients) :
    SortedMap.keys clients = SortedMap.keys registrations ∧
      ∀ entry ∈ clients, Made draws descriptor entry.1 entry.2 := by
  induction registrations generalizing clients with
  | nil =>
    cases prepared
    exact ⟨rfl, fun _ inside => absurd inside List.not_mem_nil⟩
  | cons registration rest hypothesis =>
    obtain ⟨client, made, prepared⟩ := bind_ok.mp prepared
    obtain ⟨others, later, prepared⟩ := bind_ok.mp prepared
    cases prepared
    obtain ⟨same, each⟩ := hypothesis later
    refine ⟨?_, ?_⟩
    · rw [SortedMap.keys, SortedMap.keys, List.map_cons, List.map_cons]
      exact congrArg _ same
    · intro entry inside
      rcases List.mem_cons.mp inside with rfl | there
      · exact client_made made
      · exact each entry there

/-- What a preparation establishes. -/
structure Ready (library : Library) (draws : Draws) (prepared : PreparedMaterialization)
    (registrations : List (String × ClientRegistration)) : Prop where
  plans : ∀ plan ∈ prepared.descriptor.plans, PlanAccepted registrations plan
  keys : SortedMap.keys prepared.clients = SortedMap.keys registrations
  made : ∀ entry ∈ prepared.clients, Made draws prepared.descriptor entry.1 entry.2
  token : descriptorRequiresReference prepared.descriptor accessToken = true →
    prepared.dynamicRegistrationInitialAccessToken ≠ none
  jti : validateRequestJti prepared.requestJti = .ok ()
  attestation : ∀ material, prepared.attestation = some material →
    ∃ origin country, draws.attestation origin country = .ok material

theorem prepared_ready {descriptor : MatrixDescriptor} {issuer origin jti : String}
    {token country : Option String} {prepared : PreparedMaterialization}
    (made : prepareMaterialization library draws descriptor issuer origin jti token country =
      .ok prepared) : ∃ registrations, Ready library draws prepared registrations := by
  unfold prepareMaterialization at made
  obtain ⟨_, _, made⟩ := bind_ok.mp made
  obtain ⟨_, valid, made⟩ := bind_ok.mp made
  cases raw : descriptor.rawSha256 with
  | none =>
    rw [raw] at made
    cases made
  | some sha256 =>
    rw [raw] at made
    obtain ⟨registrations, accepted, made⟩ := bind_ok.mp made
    obtain ⟨_, _, made⟩ := bind_ok.mp made
    obtain ⟨attestation, attested, made⟩ := bind_ok.mp made
    obtain ⟨clients, clientsMade, made⟩ := bind_ok.mp made
    obtain ⟨_, tokenGiven, made⟩ := bind_ok.mp made
    cases made
    obtain ⟨keys, each⟩ := clients_made clientsMade
    refine ⟨registrations, (descriptor_plans accepted).1, keys, each, ?_, valid, ?_⟩
    · intro required missing
      have given := check_ok.mp tokenGiven
      have same : descriptorRequiresReference descriptor accessToken = true := required
      simp only [same, if_true] at missing
      exact given ⟨same, missing⟩
    · intro material found
      simp only at found
      subst found
      rw [whenNeeded] at attested
      split at attested
      · cases drawn : draws.attestation origin _ with
        | error error =>
          rw [drawn] at attested
          cases attested
        | ok value =>
          rw [drawn] at attested
          cases attested
          exact ⟨_, _, drawn⟩
      · cases attested

end Clients

/-! ## Which references resolve -/

def segment (value : String) : Bool := (validateUrlSegment value).toBool

/-- Whether a name asks for an address that the URL library takes. -/
def addressable (library : Library) (issuer suffix : String) (wildcard : Bool) : Bool :=
  plainPath suffix wildcard (addressPath suffix wildcard).1
    && (library.url (trimEndMatches '/' issuer ++ (addressPath suffix wildcard).1)).isSome

def testable (reference : String) : Bool :=
  (splitOnce '.' reference).any fun parts => segment parts.1 && segment parts.2

def secretKept (client : PreparedClient) (field : String) : Bool :=
  field != "client_secret" || hasSecret client

/-- The fields of a client that the resolver knows. -/
def clientFields : List String := "id" :: generatedFields

/-- What the checks of a descriptor leave open of the end of a chain. -/
def answerable (library : Library) (prepared : PreparedMaterialization) : Reference → Bool
  | .targetHost => ((library.url prepared.targetIssuer).bind (·.host)).isSome
  | .targetUrl path => addressable library prepared.targetIssuer path false
  | .targetPattern path => addressable library prepared.targetIssuer path true
  | .suitePattern endpoint => segment endpoint
  | .runAlias aliasKey => segment aliasKey
  | .suiteTest reference => testable reference
  | .suiteTestQuery reference => testable reference
  | .onlyClient field => prepared.clients.all fun entry => secretKept entry.2 field
  | .client reference =>
    (splitOnce '.' reference).all fun parts => clientFields.contains parts.2
      && (SortedMap.get prepared.clients parts.1).all fun client => secretKept client parts.2
  | .generated field => prepared.clients.length == 1
    && prepared.clients.all fun entry => secretKept entry.2 field
  | _ => true

/-- The generated text under a field of a client. -/
def clientText (client : PreparedClient) (field : String) : Option String :=
  if field = "client_secret" then some client.clientSecret
  else if field = "rsa.private_jwks" then some client.rsaPrivateJwks
  else if field = "rsa.public_jwks" then some client.rsaPublicJwks
  else if field = "ec.private_jwks" then some client.ecPrivateJwks
  else if field = "ec.public_jwks" then some client.ecPublicJwks
  else if field = "mtls.ca_cert" then some client.mtlsCaCertificate
  else if field = "mtls.client_cert" then some client.mtlsClientCertificate
  else if field = "mtls.client_key" then some client.mtlsClientKey
  else if field = "mtls.cert_sha256" then some client.mtlsClientCertificateSha256
  else none

/-- The client and the field that a reference asks for. -/
def referred (prepared : PreparedMaterialization) : Reference → Option (PreparedClient × String)
  | .onlyClient field => prepared.clients.head?.map fun entry => (entry.2, field)
  | .generated field => prepared.clients.head?.map fun entry => (entry.2, field)
  | .client reference =>
    (splitOnce '.' reference).bind fun parts =>
      (SortedMap.get prepared.clients parts.1).map fun client => (client, parts.2)
  | _ => none

/-- The value of a reference is not left out of the preparation. -/
structure Generated (prepared : PreparedMaterialization) (reference : Reference) : Prop where
  token : reference = .initialAccessToken → prepared.dynamicRegistrationInitialAccessToken ≠ none
  text : ∀ client field, referred prepared reference = some (client, field) →
    clientText client field ≠ some ""

section Answers

variable {library : Library} {draws : Draws} {prepared : PreparedMaterialization}
  {registrations : List (String × ClientRegistration)} {ids : List (String × String)}
  {logical field : String} {client : PreparedClient}

theorem resolveClient_field {value : Json}
    (resolved : resolveClientReference library logical field prepared ids = .ok value) :
    field ∈ clientFields := by
  unfold resolveClientReference at resolved
  repeat' split at resolved
  all_goals first
    | (cases resolved; done)
    | (next same => subst same; decide)
    | skip
  next same _ _ _ =>
    subst same
    decide

theorem decoded_text (documented : Documented library draws) {text : String}
    (decoded : (library.decode text).isSome) :
    (∃ value, jsonValue library text = .ok value) ∧ text ≠ "" := by
  obtain ⟨value, same⟩ := Option.isSome_iff_exists.mp decoded
  refine ⟨⟨value, ?_⟩, ?_⟩
  · rw [jsonValue, same]
  · rintro rfl
    rw [documented.blank] at decoded
    cases decoded

/-- A field has a value, and a text unless it is a secret that was not kept. -/
def Answered (library : Library) (prepared : PreparedMaterialization)
    (ids : List (String × String)) (logical field : String) (client : PreparedClient) : Prop :=
  (∃ value, resolveClientReference library logical field prepared ids = .ok value) ∧
    (clientText client field ≠ some "" ↔ secretKept client field = true)

theorem secretKept_other (other : field ≠ "client_secret") : secretKept client field = true := by
  rw [secretKept, bne_iff_ne.mpr other, Bool.true_or]

theorem answered_document (documented : Documented library draws) {text : String}
    (resolved : resolveClientReference library logical field prepared ids =
      jsonValue library text) (own : clientText client field = some text)
    (other : field ≠ "client_secret") (decoded : (library.decode text).isSome) :
    Answered library prepared ids logical field client := by
  obtain ⟨value, present⟩ := decoded_text documented decoded
  refine ⟨resolved ▸ value, iff_of_true ?_ (secretKept_other other)⟩
  rw [own]
  exact fun blank => present (Option.some.inj blank)

theorem answered_text {text : String}
    (resolved : resolveClientReference library logical field prepared ids = .ok (.string text))
    (own : clientText client field = some text) (other : field ≠ "client_secret")
    (present : text ≠ "") : Answered library prepared ids logical field client := by
  refine ⟨⟨_, resolved⟩, iff_of_true ?_ (secretKept_other other)⟩
  rw [own]
  exact fun blank => present (Option.some.inj blank)

theorem answered_secret (documented : Documented library draws)
    (made : Made draws prepared.descriptor logical client)
    (found : SortedMap.get prepared.clients logical = some client) :
    Answered library prepared ids logical "client_secret" client := by
  refine ⟨⟨.string client.clientSecret, by simp [resolveClientReference, found]⟩, ?_⟩
  have own : clientText client "client_secret" = some client.clientSecret := by simp [clientText]
  have kept : secretKept client "client_secret" = hasSecret client := by simp [secretKept]
  rw [own, kept, made.secret]
  by_cases secret : hasSecret client = true
  · rw [if_pos secret]
    exact iff_of_true (fun blank => documented.secret logical (Option.some.inj blank)) secret
  · rw [if_neg secret]
    exact iff_of_false (fun present => present rfl) secret

/-- Every known field is answered, if what the descriptor names was generated. -/
theorem answered_known (documented : Documented library draws)
    (made : Made draws prepared.descriptor logical client)
    (found : SortedMap.get prepared.clients logical = some client)
    (bound : ∃ id, SortedMap.get ids logical = some id)
    (named : field ≠ "id" → field ≠ "client_secret" → Named prepared.descriptor logical field)
    (known : field ∈ clientFields) : Answered library prepared ids logical field client := by
  simp only [clientFields, generatedFields, List.mem_cons, List.not_mem_nil, or_false] at known
  rcases known with rfl | rfl | rfl | rfl | rfl | rfl | rfl | rfl | rfl | rfl
  · obtain ⟨id, given⟩ := bound
    refine ⟨⟨.string id, by simp [resolveClientReference, found, given]⟩, ?_⟩
    exact iff_of_true (by simp [clientText]) (secretKept_other (by decide))
  · exact answered_secret documented made found
  · obtain ⟨bits, drawn⟩ := made.rsa ⟨_, by decide, named (by decide) (by decide)⟩
    exact answered_document documented (by simp [resolveClientReference, found])
      (by simp [clientText]) (by decide) (documented.rsa _ _ _ drawn).1
  · obtain ⟨bits, drawn⟩ := made.rsa ⟨_, by decide, named (by decide) (by decide)⟩
    exact answered_document documented (by simp [resolveClientReference, found])
      (by simp [clientText]) (by decide) (documented.rsa _ _ _ drawn).2
  · have drawn := made.ec ⟨_, by decide, named (by decide) (by decide)⟩
    exact answered_document documented (by simp [resolveClientReference, found])
      (by simp [clientText]) (by decide) (documented.ec _ _ drawn).1
  · have drawn := made.ec ⟨_, by decide, named (by decide) (by decide)⟩
    exact answered_document documented (by simp [resolveClientReference, found])
      (by simp [clientText]) (by decide) (documented.ec _ _ drawn).2
  · have drawn := made.mtls ⟨_, by decide, named (by decide) (by decide)⟩
    exact answered_text (by simp [resolveClientReference, found]) (by simp [clientText])
      (by decide) (documented.mtls _ _ drawn).1
  · have drawn := made.mtls ⟨_, by decide, named (by decide) (by decide)⟩
    exact answered_text (by simp [resolveClientReference, found]) (by simp [clientText])
      (by decide) (documented.mtls _ _ drawn).2.1
  · have drawn := made.mtls ⟨_, by decide, named (by decide) (by decide)⟩
    exact answered_text (by simp [resolveClientReference, found]) (by simp [clientText])
      (by decide) (documented.mtls _ _ drawn).2.2.1
  · have drawn := made.mtls ⟨_, by decide, named (by decide) (by decide)⟩
    exact answered_text (by simp [resolveClientReference, found]) (by simp [clientText])
      (by decide) (documented.mtls _ _ drawn).2.2.2

end Answers

section Settled

variable {library : Library} {draws : Draws} {prepared : PreparedMaterialization}
  {registrations : List (String × ClientRegistration)} {onboarding : MaterializationBindings}
  {last : String}

theorem map_ok {α β : Type} {f : α → β} {x : Except MaterializerError α} :
    (∃ value, x.map f = .ok value) ↔ ∃ value, x = .ok value := by
  cases x with
  | error error =>
    refine iff_of_false ?_ ?_
    · rintro ⟨_, same⟩
      cases same
    · rintro ⟨_, same⟩
      cases same
  | ok value => exact iff_of_true ⟨_, rfl⟩ ⟨_, rfl⟩

theorem segment_ok {value : String} :
    validateUrlSegment value = .ok () ↔ segment value = true := by
  rw [segment]
  cases validateUrlSegment value with
  | error error => exact iff_of_false (by simp) (by simp [Except.toBool])
  | ok _ => exact iff_of_true rfl rfl

theorem targetHost_ok {issuer : String} : (∃ host, targetHost library issuer = .ok host) ↔
    ((library.url issuer).bind (·.host)).isSome = true := by
  rw [targetHost]
  cases (library.url issuer).bind (·.host) with
  | none => exact iff_of_false (by rintro ⟨_, same⟩; cases same) (by simp)
  | some host => exact iff_of_true ⟨host, rfl⟩ rfl

theorem resolveTargetUrl_ok {issuer suffix : String} {wildcard : Bool} :
    (∃ address, resolveTargetUrl library issuer suffix wildcard = .ok address) ↔
      addressable library issuer suffix wildcard = true := by
  rw [addressable, Bool.and_eq_true]
  constructor
  · rintro ⟨address, resolved⟩
    obtain ⟨_, plain, resolved⟩ := bind_ok.mp resolved
    obtain ⟨_, parsed, _⟩ := bind_ok.mp resolved
    exact ⟨check_ok.mp plain, check_ok.mp parsed⟩
  · rintro ⟨plain, parsed⟩
    exact ⟨_, bind_ok.mpr ⟨(), check_ok.mpr plain, bind_ok.mpr ⟨(), check_ok.mpr parsed, rfl⟩⟩⟩

theorem resolveRunAlias_ok {jti aliasKey : String} (valid : validateRequestJti jti = .ok ()) :
    (∃ value, resolveRunAlias jti aliasKey = .ok value) ↔ segment aliasKey = true := by
  rw [← segment_ok]
  constructor
  · rintro ⟨value, resolved⟩
    obtain ⟨_, passed, _⟩ := bind_ok.mp resolved
    exact passed
  · intro passed
    have named := check_ok.mp valid
    cases stripped : stripPrefix "request-" jti with
    | none =>
      rw [stripped] at named
      cases named
    | some suffix =>
      refine ⟨"nazo-" ++ suffix ++ "-" ++ aliasKey, bind_ok.mpr ⟨(), passed, ?_⟩⟩
      rw [stripped]

theorem resolveSuiteTestUrl_ok {origin jti reference : String}
    (valid : validateRequestJti jti = .ok ()) :
    (∃ value, resolveSuiteTestUrl origin jti reference = .ok value) ↔
      testable reference = true := by
  rw [resolveSuiteTestUrl, testable]
  cases splitOnce '.' reference with
  | none => exact iff_of_false (by rintro ⟨_, same⟩; cases same) (by simp)
  | some parts =>
    obtain ⟨aliasKey, endpoint⟩ := parts
    rw [Option.any_some, Bool.and_eq_true, ← resolveRunAlias_ok valid, ← segment_ok]
    constructor
    · rintro ⟨value, resolved⟩
      obtain ⟨_, passed, resolved⟩ := bind_ok.mp resolved
      obtain ⟨named, resolved, _⟩ := bind_ok.mp resolved
      exact ⟨⟨named, resolved⟩, passed⟩
    · rintro ⟨⟨named, resolved⟩, passed⟩
      exact ⟨_, bind_ok.mpr ⟨(), passed, bind_ok.mpr ⟨named, resolved, rfl⟩⟩⟩

theorem generated_other {reference : Reference} (token : reference ≠ .initialAccessToken)
    (other : referred prepared reference = none) : Generated prepared reference := by
  refine ⟨fun same => absurd same token, ?_⟩
  intro client field found
  rw [other] at found
  cases found

/-- What is known of the end of a chain of an accepted descriptor. -/
structure Ended (registrations : List (String × ClientRegistration))
    (prepared : PreparedMaterialization) (last : String) : Prop where
  builtin : isBuiltinReference last = true
  client : checkClient (SortedMap.keys registrations) last = .ok ()
  required : descriptorRequiresReference prepared.descriptor last = true

/-- Every prepared client has an id. -/
def Bound (prepared : PreparedMaterialization) (ids : List (String × String)) : Prop :=
  ∀ logical ∈ SortedMap.keys prepared.clients, ∃ id, SortedMap.get ids logical = some id

theorem get_key {logical : String} {clients : List (String × PreparedClient)}
    (inside : logical ∈ SortedMap.keys clients) :
    ∃ client, SortedMap.get clients logical = some client ∧ (logical, client) ∈ clients := by
  cases found : SortedMap.get clients logical with
  | none =>
    rw [SortedMap.get, Option.map_eq_none_iff, List.find?_eq_none] at found
    obtain ⟨client, there⟩ := SortedMap.mem_keys.mp inside
    exact absurd (found _ there) (by simp)
  | some client => exact ⟨client, rfl, SortedMap.mem_of_get found⟩

theorem stripPrefix_append (part rest : String) : stripPrefix part (part ++ rest) = some rest := by
  have starts : startsWith part (part ++ rest) = true := by
    rw [startsWith, String.toList_append]
    exact List.isPrefixOf_iff_prefix.mpr (List.prefix_append _ _)
  rw [stripPrefix, if_pos starts, String.toList_append, List.drop_left, String.ofList_toList]

/-- A reference to a field of a client of its own. -/
theorem client_settled (documented : Documented library draws)
    (ready : Ready library draws prepared registrations)
    (ended : Ended registrations prepared last) (bound : Bound prepared onboarding.clients)
    {reference : String} (read : readReference last = .client reference) :
    ((∃ value, resolveName library prepared onboarding last = .ok value) ∧
        Generated prepared (.client reference)) ↔
      answerable library prepared (.client reference) = true := by
  have name := readReference_client read
  have known := ended.client
  rw [checkClient, name, stripPrefix_append] at known
  rw [resolveName, read, answerable]
  simp only at known ⊢
  cases parts : splitOnce '.' reference with
  | none =>
    rw [parts] at known
    cases known
  | some pair =>
    obtain ⟨logical, field⟩ := pair
    rw [parts] at known
    simp only at known ⊢
    rw [Option.all_some]
    have listed : logical ∈ SortedMap.keys prepared.clients := by
      rw [ready.keys]
      by_contra missing
      rw [if_neg missing] at known
      cases known
    obtain ⟨client, found, inside⟩ := get_key listed
    have asked : referred prepared (.client reference) = some (client, field) := by
      rw [referred, parts, Option.bind_some, found]
      rfl
    have named : Named prepared.descriptor logical field := by
      left
      rw [splitOnce_some parts, ← String.append_assoc, ← String.append_assoc] at name
      have same : last = "client." ++ logical ++ "." ++ field := name
      rw [← same]
      exact ended.required
    rw [found, Option.all_some, Bool.and_eq_true, List.contains_iff_mem]
    constructor
    · rintro ⟨⟨value, resolved⟩, generated⟩
      have field := resolveClient_field resolved
      have answered := answered_known documented (ready.made _ inside) found (bound _ listed)
        (fun _ _ => named) field
      exact ⟨field, answered.2.mp (generated.text _ _ asked)⟩
    · rintro ⟨field, kept⟩
      have answered := answered_known documented (ready.made _ inside) found (bound _ listed)
        (fun _ _ => named) field
      refine ⟨answered.1, ⟨?_, ?_⟩⟩
      · intro same
        cases same
      · intro other text same
        rw [asked] at same
        cases same
        exact answered.2.mpr kept

/-- A reference to a field of the only client. -/
theorem only_settled (documented : Documented library draws)
    (ready : Ready library draws prepared registrations)
    (bound : Bound prepared onboarding.clients) {field logical : String}
    {client : PreparedClient} (single : prepared.clients = [(logical, client)])
    (named : field ≠ "id" → field ≠ "client_secret" → Named prepared.descriptor logical field)
    (known : field ∈ clientFields) :
    (∃ value, resolveOnlyClient library field prepared onboarding = .ok value) ∧
      (clientText client field ≠ some "" ↔ secretKept client field = true) := by
  have inside : (logical, client) ∈ prepared.clients := single ▸ List.mem_cons_self
  have found : SortedMap.get prepared.clients logical = some client := by
    rw [single]
    simp [SortedMap.get]
  rw [resolveOnlyClient, single]
  exact answered_known documented (ready.made _ inside) found
    (bound _ (SortedMap.mem_keys.mpr ⟨client, inside⟩)) named known

/-- The name of a reference to the only client leaves one client. -/
theorem onlyClient_single (ready : Ready library draws prepared registrations)
    (ended : Ended registrations prepared last) {field : String}
    (read : readReference last = .onlyClient field) :
    ∃ logical client, prepared.clients = [(logical, client)] := by
  have length : (SortedMap.keys registrations).length = 1 := by
    have known := ended.client
    rcases readReference_onlyClient read with ⟨rfl, _⟩ | ⟨rfl, _⟩
    · by_contra several
      have failed : checkClient (SortedMap.keys registrations) "onboarding.client_id" =
          .error .ambiguousClientReference := by
        have other : stripPrefix "client." "onboarding.client_id" = none := by decide
        rw [checkClient, other]
        exact if_pos ⟨.inl rfl, several⟩
      rw [failed] at known
      cases known
    · by_contra several
      have failed : checkClient (SortedMap.keys registrations) "onboarding.client_secret" =
          .error .ambiguousClientReference := by
        have other : stripPrefix "client." "onboarding.client_secret" = none := by decide
        rw [checkClient, other]
        exact if_pos ⟨.inr rfl, several⟩
      rw [failed] at known
      cases known
  rw [← ready.keys, SortedMap.keys, List.length_map] at length
  obtain ⟨entry, single⟩ := List.length_eq_one_iff.mp length
  exact ⟨entry.1, entry.2, single⟩

theorem onlyClient_settled (documented : Documented library draws)
    (ready : Ready library draws prepared registrations)
    (ended : Ended registrations prepared last) (bound : Bound prepared onboarding.clients)
    {field : String} (read : readReference last = .onlyClient field) :
    ((∃ value, resolveName library prepared onboarding last = .ok value) ∧
        Generated prepared (.onlyClient field)) ↔
      answerable library prepared (.onlyClient field) = true := by
  obtain ⟨logical, client, single⟩ := onlyClient_single ready ended read
  have plain : field = "id" ∨ field = "client_secret" := by
    rcases readReference_onlyClient read with ⟨_, same⟩ | ⟨_, same⟩
    · exact .inl same
    · exact .inr same
  have known : field ∈ clientFields := by
    rcases plain with rfl | rfl
    · decide
    · decide
  have answered := only_settled documented ready bound single
    (fun notId notSecret => absurd plain (not_or.mpr ⟨notId, notSecret⟩)) known
  have asked : referred prepared (.onlyClient field) = some (client, field) := by
    rw [referred, single]
    rfl
  rw [resolveName, read, answerable, single, List.all_cons, List.all_nil, Bool.and_true,
    ← answered.2]
  constructor
  · rintro ⟨_, generated⟩
    exact generated.text _ _ asked
  · intro text
    refine ⟨answered.1, ⟨?_, ?_⟩⟩
    · intro same
      cases same
    · intro other field same
      rw [asked] at same
      cases same
      exact text

theorem generated_settled (documented : Documented library draws)
    (ready : Ready library draws prepared registrations)
    (ended : Ended registrations prepared last) (bound : Bound prepared onboarding.clients)
    {field : String} (read : readReference last = .generated field) :
    ((∃ value, resolveName library prepared onboarding last = .ok value) ∧
        Generated prepared (.generated field)) ↔
      answerable library prepared (.generated field) = true := by
  have name := readReference_generated read
  have listed : field ∈ generatedFields := by
    have known := builtin_known ended.builtin
    rw [readAsKnown, read] at known
    exact List.contains_iff_mem.mp known
  rw [resolveName, read, answerable, Bool.and_eq_true, beq_iff_eq]
  by_cases length : prepared.clients.length = 1
  · obtain ⟨⟨logical, client⟩, single⟩ := List.length_eq_one_iff.mp length
    have answered := only_settled documented ready bound single
      (fun _ _ => .inr (name ▸ ended.required)) (List.mem_cons_of_mem _ listed)
    have asked : referred prepared (.generated field) = some (client, field) := by
      rw [referred, single]
      rfl
    rw [and_iff_right length, single, List.all_cons, List.all_nil, Bool.and_true, ← answered.2]
    constructor
    · rintro ⟨_, generated⟩
      exact generated.text _ _ asked
    · intro text
      refine ⟨answered.1, ⟨?_, ?_⟩⟩
      · intro same
        cases same
      · intro other field same
        rw [asked] at same
        cases same
        exact text
  · refine iff_of_false ?_ fun both => length both.1
    rintro ⟨⟨value, resolved⟩, _⟩
    simp only at resolved
    rw [resolveOnlyClient] at resolved
    split at resolved
    · next single =>
      rw [single] at length
      exact length rfl
    · cases resolved

/-- Of the end of a chain, exactly what the checks leave open decides whether it resolves. -/
theorem reference_settled (documented : Documented library draws)
    (ready : Ready library draws prepared registrations)
    (ended : Ended registrations prepared last) (bound : Bound prepared onboarding.clients) :
    ((∃ value, resolveName library prepared onboarding last = .ok value) ∧
        Generated prepared (readReference last)) ↔
      answerable library prepared (readReference last) = true := by
  cases read : readReference last with
  | client reference => exact client_settled documented ready ended bound read
  | onlyClient field => exact onlyClient_settled documented ready ended bound read
  | generated field => exact generated_settled documented ready ended bound read
  | unknown =>
    have known := builtin_known ended.builtin
    rw [readAsKnown, read] at known
    cases known
  | initialAccessToken =>
    have required := ended.required
    rw [readReference_token read] at required
    obtain ⟨token, given⟩ := Option.ne_none_iff_exists'.mp (ready.token required)
    refine iff_of_true ⟨⟨.string token, ?_⟩, ⟨fun _ => ready.token required, ?_⟩⟩ rfl
    · rw [resolveName, read]
      simp only [given]
    · intro client field asked
      cases asked
  | targetHost =>
    rw [resolveName, read, answerable, and_iff_left (generated_other (by decide) rfl), map_ok]
    exact targetHost_ok
  | targetUrl path =>
    rw [resolveName, read, answerable, and_iff_left (generated_other (by simp) rfl), map_ok]
    exact resolveTargetUrl_ok
  | targetPattern path =>
    rw [resolveName, read, answerable, and_iff_left (generated_other (by simp) rfl), map_ok]
    exact resolveTargetUrl_ok
  | suitePattern endpoint =>
    rw [resolveName, read, answerable, and_iff_left (generated_other (by simp) rfl),
      ← segment_ok]
    constructor
    · rintro ⟨value, resolved⟩
      obtain ⟨_, passed, _⟩ := bind_ok.mp resolved
      exact passed
    · intro passed
      exact ⟨_, bind_ok.mpr ⟨(), passed, rfl⟩⟩
  | runAlias aliasKey =>
    rw [resolveName, read, answerable, and_iff_left (generated_other (by simp) rfl), map_ok]
    exact resolveRunAlias_ok ready.jti
  | suiteTest reference =>
    rw [resolveName, read, answerable, and_iff_left (generated_other (by simp) rfl), map_ok]
    exact resolveSuiteTestUrl_ok ready.jti
  | suiteTestQuery reference =>
    rw [resolveName, read, answerable, and_iff_left (generated_other (by simp) rfl), map_ok]
    exact resolveSuiteTestUrl_ok ready.jti
  | _ =>
    rw [resolveName, read]
    exact iff_of_true ⟨⟨_, rfl⟩, generated_other (by decide) rfl⟩ rfl

end Settled

end NazoAuthCtl.MatrixResolution
