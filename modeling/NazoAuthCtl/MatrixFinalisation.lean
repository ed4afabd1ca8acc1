import NazoAuthCtl.JsonEdits
import NazoAuthCtl.MatrixResolution

/-!
# The finalised matrix

What finalisation makes of the templates of a prepared run and of an accepted result of Apply:
each configuration is its template with the placeholders replaced, apart from the fields of its
kind of plan, and no error about a reference comes up.
-/

set_option autoImplicit false
set_option linter.all false

namespace NazoAuthCtl.MatrixFinalisation

open Checks JsonValue MatrixReferences MatrixDescriptors MatrixTemplates Materializer
open MatrixResolution JsonEdits

/-! ## Templates with their placeholders replaced -/

section Trees

variable {resolve : String → Option (Except MaterializerError Json)} {meaning : String → Json}

/-- A placeholder becomes its value, and any other text stays. -/
def replacement (meaning : String → Json) (text : String) : Json :=
  if isPlaceholder text then meaning text else .string text

theorem placeholder_parsed {text name : String} (parsed : parsePlaceholder text = .ok name) :
    isPlaceholder text = true := by
  rw [isPlaceholder, parsed]
  rfl

theorem placeholder_marked {text : String} (placed : isPlaceholder text = true) :
    marked text = true := by
  cases parsed : parsePlaceholder text with
  | error error =>
    rw [isPlaceholder, parsed] at placed
    cases placed
  | ok name =>
    obtain ⟨good, _⟩ := parsePlaceholder_ok.mp parsed
    rw [Bool.and_eq_true, braced, Bool.and_eq_true, Bool.and_eq_true] at good
    rw [marked, Bool.or_eq_true, Bool.or_eq_true]
    exact .inl (.inl (List.any_eq_true.mpr
      ⟨text.toList, (List.mem_tails _ _).mpr List.suffix_rfl, good.1.1.1⟩))

/-- The text is a placeholder with a known value, or it holds no mark of one. -/
structure Replaced (resolve : String → Option (Except MaterializerError Json))
    (meaning : String → Json) (text : String) : Prop where
  checked : checkMarked text = .ok ()
  resolved : ∀ name, parsePlaceholder text = .ok name → resolve name = some (.ok (meaning text))

theorem text_replaced {text : String} (known : Replaced resolve meaning text) :
    materializeText resolve text = some (.ok (replacement meaning text)) := by
  have checked := known.checked
  rw [materializeText, replacement]
  rw [checkMarked] at checked
  by_cases marks : marked text = true
  · rw [if_pos marks]
    rw [if_pos marks] at checked
    cases parsed : parsePlaceholder text with
    | error error =>
      rw [parsed] at checked
      cases checked
    | ok name =>
      rw [if_pos (placeholder_parsed parsed)]
      exact known.resolved name parsed
  · rw [if_neg marks, if_neg fun placed => marks (placeholder_marked placed)]

mutual

theorem tree_replaced : ∀ {value : Json}, (∀ text ∈ textsOf value, Replaced resolve meaning text) →
    materializeTree resolve value = some (.ok (replaceTexts (replacement meaning) value))
  | .array values, known => by
    rw [materializeTree, trees_replaced known]
    rfl
  | .object members, known => by
    rw [materializeTree, members_replaced known]
    rfl
  | .string text, known => text_replaced (known text (List.mem_singleton.mpr rfl))
  | .null, _ => rfl
  | .bool _, _ => rfl
  | .number _, _ => rfl

theorem trees_replaced : ∀ {values : List Json},
    (∀ text ∈ textsOfValues values, Replaced resolve meaning text) →
      materializeTrees resolve values = some (.ok (replaceEach (replacement meaning) values))
  | [], _ => rfl
  | value :: values, known => by
    have first := tree_replaced fun text inside => known text (List.mem_append_left _ inside)
    have rest := trees_replaced fun text inside => known text (List.mem_append_right _ inside)
    rw [materializeTrees, first, rest]
    rfl

theorem members_replaced : ∀ {members : Members},
    (∀ text ∈ textsOfMembers members, Replaced resolve meaning text) →
      materializeMembers resolve members =
        some (.ok (replaceMembers (replacement meaning) members))
  | [], _ => rfl
  | (key, value) :: members, known => by
    have first := tree_replaced fun text inside => known text (List.mem_append_left _ inside)
    have rest := members_replaced fun text inside => known text (List.mem_append_right _ inside)
    rw [materializeMembers, first, rest]
    rfl

end

end Trees

/-! ## Fields of a plan's kind -/

/-- The fields of an issuer plan that its run fills in. -/
def vciFields : List Path :=
  [["vci", "static_tx_code"], ["vci", "credential_configuration_id"],
    ["vci", "credential_issuer_url"], ["vci", "key_attestation_jwks"], ["client_attestation"],
    ["credential", "trust_anchor_pem"], ["credential", "status_list_trust_anchor_pem"],
    ["nazo", "openid4vc_role"], ["nazo", "client_auth_type"], ["nazo", "credential_format"]] ++
    (userRejectModules ++ parReuseBeforeAuthModules).map fun module => ["override", module]

/-- The fields of a verifier plan that its run fills in. -/
def vpFields : List Path :=
  [["credential", "signing_jwk"], ["credential", "trust_anchor_pem"],
    ["credential", "status_list_trust_anchor_pem"], ["browser"],
    ["client", "request_object_trust_anchor_pem"]]

def ownFields (plan : DescriptorPlan) : List Path :=
  (if isVci plan then vciFields else []) ++ if isVp plan then vpFields else []

section Fields

variable {library : Library} {members after inner : Members}

theorem objectUnder_was {key : String} (found : objectUnder members key = .ok inner) :
    member members key = some (.object inner) ∨ (member members key = none ∧ inner = []) := by
  rw [objectUnder] at found
  split at found
  · next absent =>
    cases found
    exact .inr ⟨absent, rfl⟩
  · next held =>
    cases found
    exact .inl held
  · cases found

/-- An edit of the object under a key, by an edit of the object. -/
theorem put_under {fields all : List Path} {key : String} {edited : Members}
    (found : objectUnder members key = .ok inner) (nonempty : fields ≠ [])
    (within : fields.map (key :: ·) ⊆ all)
    (edit : Untouched fields (.object inner) (.object edited)) :
    Untouched all (.object members) (.object (put key (.object edited) members)) :=
  untouched_mono within (untouched_under nonempty (objectUnder_was found) edit)

theorem objectUnder_same {key : String} (same : member after key = member members key) :
    objectUnder after key = objectUnder members key := by
  unfold objectUnder
  rw [same]

theorem member_put_other {key other : String} {value : Json} (different : other ≠ key) :
    member (put key value members) other = member members other := by
  rw [put, StructDecoding.member_insert, if_neg different]

theorem put_one {all : List Path} {key : String} {value : Json} (listed : [key] ∈ all) :
    Untouched all (.object members) (.object (put key value members)) :=
  untouched_mono (List.cons_subset.mpr ⟨listed, List.nil_subset _⟩) (untouched_insert value)

/-! ### Issuer plans -/

def txCodeFields : List Path := [["static_tx_code"]]

def configurationFields : List Path :=
  [["credential_configuration_id"], ["credential_issuer_url"]]

def anchorFields : List Path := [["trust_anchor_pem"], ["status_list_trust_anchor_pem"]]

def profileFields : List Path := [["openid4vc_role"], ["client_auth_type"], ["credential_format"]]

theorem placeTxCode_untouched {variant : List (String × String)} {txCode : Option String}
    (placed : placeTxCode variant txCode members = .ok after) :
    Untouched txCodeFields (.object members) (.object after) := by
  unfold placeTxCode at placed
  split at placed
  · split at placed
    · cases placed
    · obtain ⟨_, _, placed⟩ := bind_ok.mp placed
      obtain ⟨_, _, placed⟩ := bind_ok.mp placed
      cases placed
      exact put_one (by decide)
  · obtain ⟨_, _, placed⟩ := bind_ok.mp placed
    cases placed
    exact untouched_refl

theorem placeConfiguration_untouched {variant : List (String × String)} {issuer : String}
    (placed : placeConfiguration variant issuer members = .ok after) :
    Untouched configurationFields (.object members) (.object after) := by
  unfold placeConfiguration at placed
  obtain ⟨_, _, placed⟩ := bind_ok.mp placed
  obtain ⟨_, _, placed⟩ := bind_ok.mp placed
  obtain ⟨_, _, placed⟩ := bind_ok.mp placed
  cases placed
  exact untouched_trans (put_one (by decide)) (put_one (by decide))

theorem placeClientAttestation_untouched {haip : Bool} {origin : String}
    {attestation : GeneratedAttestationMaterial} {jwks : Json}
    (placed : placeClientAttestation library haip origin attestation jwks members = .ok after) :
    Untouched [["client_attestation"]] (.object members) (.object after) := by
  rw [placeClientAttestation] at placed
  split at placed
  · obtain ⟨_, _, placed⟩ := bind_ok.mp placed
    obtain ⟨_, _, placed⟩ := bind_ok.mp placed
    cases placed
    exact put_one (by decide)
  · cases placed
    exact untouched_refl

theorem placeTrustAnchor_put {anchor field : String}
    (placed : placeTrustAnchor anchor field members = .ok after) :
    after = put field (.string anchor) members := by
  obtain ⟨_, _, placed⟩ := bind_ok.mp placed
  cases placed
  rfl

theorem placeTrustAnchors_untouched {anchor : String}
    (placed : placeTrustAnchors anchor members = .ok after) :
    Untouched anchorFields (.object members) (.object after) := by
  obtain ⟨between, first, second⟩ := bind_ok.mp placed
  rw [placeTrustAnchor_put second, placeTrustAnchor_put first]
  exact untouched_trans (put_one (by decide)) (put_one (by decide))

theorem ensureVciField_untouched {field expected : String} {all : List Path}
    (listed : [field] ∈ all) (placed : ensureVciField members field expected = .ok after) :
    Untouched all (.object members) (.object after) := by
  rw [ensureVciField] at placed
  split at placed
  · cases placed
    exact put_one listed
  · split at placed
    · cases placed
      exact untouched_refl
    · cases placed

theorem placeProfile_untouched {variant : List (String × String)}
    (placed : placeProfile variant members = .ok after) :
    Untouched profileFields (.object members) (.object after) := by
  obtain ⟨first, role, placed⟩ := bind_ok.mp placed
  obtain ⟨second, auth, placed⟩ := bind_ok.mp placed
  obtain ⟨_, _, placed⟩ := bind_ok.mp placed
  obtain ⟨_, _, placed⟩ := bind_ok.mp placed
  cases placed
  have authKept : Untouched profileFields (.object first) (.object second) := by
    rw [placeClientAuth] at auth
    split at auth
    · cases auth
      exact untouched_refl
    · obtain ⟨_, _, auth⟩ := bind_ok.mp auth
      exact ensureVciField_untouched (by decide) auth
  exact untouched_trans (ensureVciField_untouched (by decide) role)
    (untouched_trans authKept (put_one (by decide)))

theorem insertOverrides_untouched {browser : Json} {modules : List String} {all : List Path}
    (listed : ∀ module ∈ modules, [module] ∈ all)
    (placed : insertOverrides browser members modules = .ok after) :
    Untouched all (.object members) (.object after) := by
  induction modules generalizing members with
  | nil =>
    cases placed
    exact untouched_refl
  | cons module rest hypothesis =>
    obtain ⟨between, first, later⟩ := bind_ok.mp placed
    refine untouched_trans ?_
      (hypothesis (fun other inside => listed other (List.mem_cons_of_mem _ inside)) later)
    rw [insertExactBrowserOverride] at first
    split at first
    · cases first
      exact put_one (listed module List.mem_cons_self)
    · split at first
      · cases first
        exact untouched_refl
      · cases first

def overrideFields : List Path :=
  (userRejectModules ++ parReuseBeforeAuthModules).map fun module => [module]

theorem browserOverrides_untouched {issuer : String}
    (placed : materializeVciBrowserOverrides members issuer = .ok after) :
    Untouched vciFields (.object members) (.object after) := by
  rw [materializeVciBrowserOverrides] at placed
  split at placed
  · cases placed
    exact untouched_refl
  · split at placed
    · obtain ⟨rejected, _, placed⟩ := bind_ok.mp placed
      obtain ⟨_, _, placed⟩ := bind_ok.mp placed
      split at placed
      · obtain ⟨overrides, found, placed⟩ := bind_ok.mp placed
        obtain ⟨first, user, placed⟩ := bind_ok.mp placed
        obtain ⟨second, par, placed⟩ := bind_ok.mp placed
        cases placed
        have edit : Untouched overrideFields (.object overrides) (.object second) :=
          untouched_trans
            (insertOverrides_untouched (fun module inside => List.mem_map.mpr
              ⟨module, List.mem_append_left _ inside, rfl⟩) user)
            (insertOverrides_untouched (fun module inside => List.mem_map.mpr
              ⟨module, List.mem_append_right _ inside, rfl⟩) par)
        exact put_under found (by decide) (by decide) edit
      · cases placed
    · cases placed
  · cases placed

/-- An issuer plan keeps everything but its own fields. -/
theorem materializeVciConfig_untouched {plan : DescriptorPlan} {before result : Json}
    {prepared : PreparedMaterialization} {anchor : String}
    (made : materializeVciConfig library plan before prepared anchor = .ok result) :
    Untouched (if isVci plan then vciFields else []) before result := by
  unfold materializeVciConfig at made
  by_cases issuer : isVci plan = true
  · rw [if_pos issuer] at made ⊢
    split at made
    · next root =>
      split at made
      · cases made
      · obtain ⟨_, _, made⟩ := bind_ok.mp made
        obtain ⟨vci, found, made⟩ := bind_ok.mp made
        obtain ⟨coded, code, made⟩ := bind_ok.mp made
        obtain ⟨configured, configuration, made⟩ := bind_ok.mp made
        split at made
        · cases made
        · obtain ⟨jwks, _, made⟩ := bind_ok.mp made
          obtain ⟨_, _, made⟩ := bind_ok.mp made
          obtain ⟨attested, attestation, made⟩ := bind_ok.mp made
          obtain ⟨credential, foundCredential, made⟩ := bind_ok.mp made
          obtain ⟨anchored, anchors, made⟩ := bind_ok.mp made
          obtain ⟨nazo, foundNazo, made⟩ := bind_ok.mp made
          obtain ⟨profiled, profile, made⟩ := bind_ok.mp made
          obtain ⟨final, overrides, made⟩ := bind_ok.mp made
          cases made
          have attestedRoot := placeClientAttestation_untouched attestation
          have vciThere : objectUnder (put "credential" (.object anchored) attested) "vci" =
              .ok vci := by
            rw [← found]
            refine objectUnder_same ((member_put_other (by decide)).trans ?_)
            refine untouched_member attestedRoot fun field inside => ?_
            rw [List.mem_singleton.mp inside]
            exact apart_names (by decide) [] []
          have nazoThere : objectUnder (put "vci" (.object (put "key_attestation_jwks" jwks
              configured)) (put "credential" (.object anchored) attested)) "nazo" = .ok nazo := by
            rw [← foundNazo]
            exact objectUnder_same
              ((member_put_other (by decide)).trans (member_put_other (by decide)))
          have vciEdit : Untouched (txCodeFields ++ configurationFields ++
              [["key_attestation_jwks"]]) (.object vci)
              (.object (put "key_attestation_jwks" jwks configured)) :=
            untouched_trans (untouched_mono (by decide) (placeTxCode_untouched code))
              (untouched_trans (untouched_mono (by decide)
                (placeConfiguration_untouched configuration)) (put_one (by decide)))
          refine untouched_trans (untouched_mono (by decide) attestedRoot) ?_
          refine untouched_trans (put_under foundCredential (by decide) (by decide)
            (placeTrustAnchors_untouched anchors)) ?_
          refine untouched_trans (put_under vciThere (by decide) (by decide) vciEdit) ?_
          refine untouched_trans (put_under nazoThere (by decide) (by decide)
            (placeProfile_untouched profile)) ?_
          exact browserOverrides_untouched overrides
    · cases made
  · rw [if_neg issuer] at made ⊢
    cases made
    exact untouched_refl

end Fields

/-! ### Verifier plans -/

section VerifierPlans

variable {library : Library} {members after : Members}

def signerFields : List Path := ["signing_jwk"] :: anchorFields

theorem evidenceBrowser_untouched {suite : String}
    (placed : materializeVpVerificationEvidenceBrowser members suite = .ok after) :
    Untouched [["browser"]] (.object members) (.object after) := by
  rw [materializeVpVerificationEvidenceBrowser] at placed
  split at placed
  · cases placed
    exact put_one (by decide)
  · split at placed
    · cases placed
      exact untouched_refl
    · cases placed

theorem placeRequestObjectAnchor_untouched {plan : DescriptorPlan} {anchor : String}
    (placed : placeRequestObjectAnchor plan anchor members = .ok after) :
    Untouched [["client", "request_object_trust_anchor_pem"]] (.object members)
      (.object after) := by
  rw [placeRequestObjectAnchor] at placed
  split at placed
  · obtain ⟨_, _, placed⟩ := bind_ok.mp placed
    cases placed
    exact untouched_refl
  · next client found =>
    split at placed
    · obtain ⟨_, _, placed⟩ := bind_ok.mp placed
      cases placed
      have there : objectUnder members "client" = .ok client := by
        rw [objectUnder, found]
      have edit : Untouched [["request_object_trust_anchor_pem"]] (.object client)
          (.object (put "request_object_trust_anchor_pem" (.string anchor) client)) :=
        put_one (by decide)
      exact put_under there (by decide) (by decide) edit
    · obtain ⟨_, _, placed⟩ := bind_ok.mp placed
      cases placed
      exact untouched_refl
  · cases placed

/-- A verifier plan keeps everything but its own fields. -/
theorem materializeVpConfig_untouched {plan : DescriptorPlan} {before result : Json}
    {prepared : PreparedMaterialization} {anchor : String}
    (made : materializeVpConfig library plan before prepared anchor = .ok result) :
    Untouched (if isVp plan then vpFields else []) before result := by
  unfold materializeVpConfig at made
  by_cases verifier : isVp plan = true
  · rw [if_pos verifier] at made ⊢
    split at made
    · next root =>
      split at made
      · cases made
      · obtain ⟨jwk, _, made⟩ := bind_ok.mp made
        obtain ⟨credential, found, made⟩ := bind_ok.mp made
        obtain ⟨_, _, made⟩ := bind_ok.mp made
        obtain ⟨anchored, anchors, made⟩ := bind_ok.mp made
        obtain ⟨browsed, browser, made⟩ := bind_ok.mp made
        obtain ⟨final, client, made⟩ := bind_ok.mp made
        cases made
        have edit : Untouched signerFields (.object credential) (.object anchored) :=
          untouched_trans (put_one (by decide))
            (untouched_mono (by decide) (placeTrustAnchors_untouched anchors))
        refine untouched_trans (put_under found (by decide) (by decide) edit) ?_
        refine untouched_trans (untouched_mono (by decide) (evidenceBrowser_untouched browser)) ?_
        exact untouched_mono (by decide) (placeRequestObjectAnchor_untouched client)
    · cases made
  · rw [if_neg verifier] at made ⊢
    cases made
    exact untouched_refl

end VerifierPlans


/-! ## Late errors -/

/-- The errors about references, which are to come up before anything is applied. -/
def late : MaterializerError → Bool
  | .invalidPlaceholder => true
  | .unknownSecretReference _ => true
  | .unknownClientReference _ => true
  | .ambiguousClientReference => true
  | .missingClientMapping => true
  | .encoding => true
  | _ => false

/-- A result that is no late error. -/
def Silent {α : Type} (result : Except MaterializerError α) : Prop :=
  ∀ error, result = .error error → late error = false

section Silence

variable {α β : Type}

theorem silent_ok {value : α} : Silent (.ok value : Except MaterializerError α) := by
  intro error same
  cases same

theorem silent_error {error : MaterializerError} (early : late error = false) :
    Silent (.error error : Except MaterializerError α) := by
  intro other same
  cases same
  exact early

theorem silent_bind {result : Except MaterializerError α} {f : α → Except MaterializerError β}
    (first : Silent result) (rest : ∀ value, result = .ok value → Silent (f value)) :
    Silent (result >>= f) := by
  cases result with
  | error error => exact silent_error (first error rfl)
  | ok value => exact rest value rfl

theorem silent_check {c : Prop} [Decidable c] {error : MaterializerError}
    (early : late error = false) : Silent (check c error) := by
  rw [check]
  split
  · exact silent_ok
  · exact silent_error early

/-- A check before the rest. -/
theorem silent_checked {c : Prop} [Decidable c] {error : MaterializerError}
    {rest : Except MaterializerError β} (early : late error = false) (after : Silent rest) :
    Silent (do check c error; rest) :=
  silent_bind (silent_check early) fun _ _ => after

theorem silent_map {result : Except MaterializerError α} {f : α → β} (first : Silent result) :
    Silent (result.map f) := by
  cases result with
  | error error => exact silent_error (first error rfl)
  | ok value => exact silent_ok

variable {library : Library} {members : Members} {field key : String}
  {variant : List (String × String)}

theorem jsonValue_silent {text : String} (decoded : (library.decode text).isSome) :
    Silent (jsonValue library text) := by
  obtain ⟨value, same⟩ := Option.isSome_iff_exists.mp decoded
  rw [jsonValue, same]
  exact silent_ok

theorem objectUnder_silent : Silent (objectUnder members key) := by
  unfold objectUnder
  split
  · exact silent_ok
  · exact silent_ok
  · exact silent_error rfl

theorem agreed_silent {configured declared : Option String} :
    Silent (agreed field configured declared) := by
  unfold agreed
  split
  · split
    · exact silent_error rfl
    · exact silent_ok
  · exact silent_ok
  · exact silent_ok
  · exact silent_error rfl

theorem placeTxCode_silent {txCode : Option String} :
    Silent (placeTxCode variant txCode members) := by
  unfold placeTxCode
  split
  · split
    · exact silent_error rfl
    · exact silent_checked rfl (silent_bind (silent_check rfl) fun _ _ => silent_ok)
  · exact silent_checked rfl silent_ok

theorem placeConfiguration_silent {issuer : String} :
    Silent (placeConfiguration variant issuer members) :=
  silent_bind agreed_silent fun _ _ =>
    silent_bind (silent_check rfl) fun _ _ => silent_checked rfl silent_ok

theorem placeClientAttestation_silent {haip : Bool} {origin : String}
    {attestation : GeneratedAttestationMaterial} {jwks : Json}
    (decoded : (library.decode attestation.attesterPrivateJwks).isSome) :
    Silent (placeClientAttestation library haip origin attestation jwks members) := by
  unfold placeClientAttestation
  split
  · exact silent_checked rfl (silent_bind (jsonValue_silent decoded) fun _ _ => silent_ok)
  · exact silent_ok

theorem placeTrustAnchors_silent {anchor : String} : Silent (placeTrustAnchors anchor members) :=
  silent_bind (silent_checked rfl silent_ok) fun _ _ => silent_checked rfl silent_ok

theorem ensureVciField_silent {expected : String} :
    Silent (ensureVciField members field expected) := by
  unfold ensureVciField
  split
  · exact silent_ok
  · split
    · exact silent_ok
    · exact silent_error rfl

theorem placeClientAuth_silent : Silent (placeClientAuth variant members) := by
  unfold placeClientAuth
  split
  · exact silent_ok
  · exact silent_bind (silent_check rfl) fun _ _ => ensureVciField_silent

theorem placeProfile_silent : Silent (placeProfile variant members) :=
  silent_bind ensureVciField_silent fun _ _ =>
    silent_bind placeClientAuth_silent fun _ _ =>
      silent_bind agreed_silent fun _ _ => silent_bind (silent_check rfl) fun _ _ => silent_ok

theorem denyCommand_silent (command : Json) : Silent (denyCommand command) := by
  unfold denyCommand
  split
  · split
    · exact silent_ok
    · split
      · exact silent_ok
      · exact silent_ok
  · exact silent_ok
  · exact silent_error rfl

theorem denyEach_silent {deny : Json → Except MaterializerError (Json × ℕ)}
    (each : ∀ value, Silent (deny value)) (values : List Json) : Silent (denyEach deny values) := by
  induction values with
  | nil => exact silent_ok
  | cons value rest hypothesis =>
    exact silent_bind (each value) fun _ _ => silent_bind hypothesis fun _ _ => silent_ok

theorem denyUnder_silent {deny : Json → Except MaterializerError (Json × ℕ)}
    (each : ∀ value, Silent (deny value)) (value : Json) :
    Silent (denyUnder key field deny value) := by
  unfold denyUnder
  split
  · split
    · exact silent_bind (denyEach_silent each _) fun _ _ => silent_ok
    · exact silent_error rfl
  · exact silent_error rfl

theorem insertOverrides_silent {browser : Json} {modules : List String} :
    Silent (insertOverrides browser members modules) := by
  induction modules generalizing members with
  | nil => exact silent_ok
  | cons module rest hypothesis =>
    refine silent_bind ?_ fun _ _ => hypothesis
    unfold insertExactBrowserOverride
    split
    · exact silent_ok
    · split
      · exact silent_ok
      · exact silent_error rfl

theorem browserOverrides_silent {issuer : String} :
    Silent (materializeVciBrowserOverrides members issuer) := by
  unfold materializeVciBrowserOverrides
  split
  · exact silent_ok
  · split
    · refine silent_bind (denyUnder_silent (denyUnder_silent denyCommand_silent) _) fun _ _ => ?_
      refine silent_checked rfl ?_
      split
      · exact silent_bind objectUnder_silent fun _ _ =>
          silent_bind insertOverrides_silent fun _ _ =>
            silent_bind insertOverrides_silent fun _ _ => silent_ok
      · exact silent_error rfl
    · exact silent_error rfl
  · exact silent_error rfl

/-- The documents of the attestation material are documents. -/
def Decoded (library : Library) (prepared : PreparedMaterialization) : Prop :=
  ∀ material, prepared.attestation = some material →
    (library.decode material.attesterPrivateJwks).isSome ∧
      (library.decode material.keyAttestationPrivateJwks).isSome ∧
      (library.decode material.credentialSigningPrivateJwk).isSome

variable {prepared : PreparedMaterialization} {plan : DescriptorPlan} {config : Json}
  {anchor : String}

theorem materializeVciConfig_silent (decoded : Decoded library prepared) :
    Silent (materializeVciConfig library plan config prepared anchor) := by
  unfold materializeVciConfig
  split
  · split
    · split
      · exact silent_error rfl
      · refine silent_bind (silent_check rfl) fun _ _ => ?_
        refine silent_bind objectUnder_silent fun _ _ => ?_
        refine silent_bind placeTxCode_silent fun _ _ => ?_
        refine silent_bind placeConfiguration_silent fun _ _ => ?_
        split
        · exact silent_error rfl
        · next material found =>
          obtain ⟨attester, keyAttestation, _⟩ := decoded material found
          refine silent_bind (jsonValue_silent keyAttestation) fun _ _ => ?_
          refine silent_checked rfl ?_
          refine silent_bind (placeClientAttestation_silent attester) fun _ _ => ?_
          refine silent_bind objectUnder_silent fun _ _ => ?_
          refine silent_bind placeTrustAnchors_silent fun _ _ => ?_
          refine silent_bind objectUnder_silent fun _ _ => ?_
          refine silent_bind placeProfile_silent fun _ _ => ?_
          exact silent_bind browserOverrides_silent fun _ _ => silent_ok
    · exact silent_error rfl
  · exact silent_ok

theorem placeRequestObjectAnchor_silent :
    Silent (placeRequestObjectAnchor plan anchor members) := by
  unfold placeRequestObjectAnchor
  split
  · exact silent_checked rfl silent_ok
  · split
    · exact silent_checked rfl silent_ok
    · exact silent_checked rfl silent_ok
  · exact silent_error rfl

theorem evidenceBrowser_silent {suite : String} :
    Silent (materializeVpVerificationEvidenceBrowser members suite) := by
  unfold materializeVpVerificationEvidenceBrowser
  split
  · exact silent_ok
  · split
    · exact silent_ok
    · exact silent_error rfl

theorem materializeVpConfig_silent (decoded : Decoded library prepared) :
    Silent (materializeVpConfig library plan config prepared anchor) := by
  unfold materializeVpConfig
  split
  · split
    · split
      · exact silent_error rfl
      · next material found =>
        refine silent_bind (jsonValue_silent (decoded material found).2.2) fun _ _ => ?_
        refine silent_bind objectUnder_silent fun _ _ => ?_
        refine silent_checked rfl ?_
        refine silent_bind placeTrustAnchors_silent fun _ _ => ?_
        refine silent_bind evidenceBrowser_silent fun _ _ => ?_
        exact silent_bind placeRequestObjectAnchor_silent fun _ _ => silent_ok
    · exact silent_error rfl
  · exact silent_ok

/-! ### The trust anchor of the tenant -/

theorem trustAnchorFrom_silent {fuel : ℕ} {found : Option String} {bytes : List UInt8} :
    Silent (trustAnchorFrom library field fuel found bytes) := by
  induction fuel generalizing found bytes with
  | zero => exact silent_error rfl
  | succ fuel hypothesis =>
    unfold trustAnchorFrom
    split
    · exact silent_ok
    · split
      · exact silent_error rfl
      · refine silent_checked rfl ?_
        split
        · exact silent_error rfl
        · refine silent_checked rfl ?_
          split
          · refine silent_checked rfl ?_
            split
            · exact silent_error rfl
            · exact hypothesis
          · exact hypothesis

theorem validateSingleMdocTrustAnchor_silent {value : String} :
    Silent (validateSingleMdocTrustAnchor library value field) := by
  unfold validateSingleMdocTrustAnchor
  refine silent_checked rfl ?_
  split
  · exact silent_error rfl
  · refine silent_checked rfl ?_
    split
    · exact silent_error rfl
    · exact silent_checked rfl silent_ok

theorem tenantTrustAnchor_silent {chain : String} :
    Silent (tenantTrustAnchor library prepared chain) := by
  unfold tenantTrustAnchor
  split
  · exact silent_ok
  · refine silent_bind (silent_checked rfl (silent_bind trustAnchorFrom_silent fun found _ => ?_))
      fun _ _ => ?_
    · cases found with
      | none => exact silent_error rfl
      | some anchor => exact silent_ok
    · exact silent_bind validateSingleMdocTrustAnchor_silent fun _ _ =>
        silent_bind validateSingleMdocTrustAnchor_silent fun _ _ => silent_checked rfl silent_ok

end Silence


end NazoAuthCtl.MatrixFinalisation
