import NazoAuthCtl.ReleaseCandidate

/-!
# The release cache

What the attestations of some bytes have to say for a manifest to be accepted, the bytes that
reach the cache, and the cache contents with which a candidate ends as it would with an empty
cache.
-/

set_option autoImplicit false
set_option linter.all false

namespace NazoAuthCtl.ReleaseCache
open Checks FaultProgram ReleaseCandidate
open FaultProgram.Program hiding pure bind
open TargetState (Bytes)

/-! ## What a certified artifact is -/

section certificates

variable (p : Platform) (repository version blob identity : String) (content : Bytes)

/-- The attestation speaks for the bytes and for the manifest. -/
structure Vouches (attestation : Attestation) (manifest : ReleaseManifest) : Prop where
  envelope : checkAttestationEnvelope "Release" attestation = .ok ()
  stated : manifestFromBundle p attestation.bundle blob (p.sha256 content) = .ok (some manifest)
  concerns : manifest.version = version ∧ manifest.releaseIdentity = identity
  signed : p.verifyBlobAttestation (p.jsonBytes attestation.bundle) content identity
    releasePredicate = .ok ()
  declared : requireArtifact p version identity blob (p.sha256 content) content.length manifest
    = .ok ()

/-- The attestation is of another kind, or of another release. -/
def PassedOver (attestation : Attestation) : Prop :=
  checkAttestationEnvelope "Release" attestation = .ok () ∧
  ∃ stated, manifestFromBundle p attestation.bundle blob (p.sha256 content) = .ok stated ∧
    ∀ manifest, stated = some manifest →
      ¬(manifest.version = version ∧ manifest.releaseIdentity = identity)

/-- The full verification: GitHub knows the digest, and every attestation it returns that
concerns the release speaks for the bytes and for one and the same manifest. -/
def Certified (manifest : ReleaseManifest) : Prop :=
  ∃ response attestations,
    p.attestations repository (p.sha256 content) releasePredicate = .ok (some response) ∧
    p.parseResponse response = .ok attestations ∧ attestations.length ≤ maxAttestations ∧
    (∀ a ∈ attestations, PassedOver p version blob identity content a
      ∨ Vouches p version blob identity content a manifest) ∧
    ∃ a ∈ attestations, Vouches p version blob identity content a manifest

def Verified : Prop := ∃ manifest, Certified p repository version blob identity content manifest

end certificates

theorem fromOption_ok {α : Type} {text : String} {o : Option α} {a : α} :
    fromOption text o = .ok a ↔ o = some a := by
  cases o with
  | none => simp [fromOption]
  | some b => simp [fromOption]

theorem context_ok {α : Type} {text : String} {x : Except String α} {a : α} :
    context text x = .ok a ↔ x = .ok a :=
  mapError_ok

theorem binaryOnly_ok {artifacts : List (String × Artifact)} {artifact : Artifact} :
    binaryOnly artifacts = .ok artifact ↔ artifacts = [("binary", artifact)] := by
  unfold binaryOnly
  rw [fromOption_ok]
  constructor
  · intro found
    by_cases one : artifacts.length = 1
    · rw [if_pos one] at found
      obtain ⟨⟨key, value⟩, rfl⟩ := List.length_eq_one_iff.mp one
      by_cases same : "binary" = key
      · subst same
        simp at found
        rw [found]
      · have other : ("binary" == key) = false := beq_eq_false_iff_ne.mpr same
        simp [List.lookup_cons, other] at found
    · rw [if_neg one] at found
      cases found
  · intro same
    subst same
    simp

/-- A manifest that is accepted for some bytes declares them, under the name of the blob. -/
theorem requireArtifact_ok {p : Platform} {version identity blob digest : String} {size : ℕ}
    {manifest : ReleaseManifest}
    (h : requireArtifact p version identity blob digest size manifest = .ok ()) :
    ∃ artifact, manifest.artifacts = [("binary", artifact)] ∧
      blob = expectedBinary manifest.target ∧ artifact.sha256 = digest ∧
      artifact.size.toNat = size := by
  unfold requireArtifact at h
  simp only [bind_ok, context_ok, fromOption_ok, check_ok] at h
  obtain ⟨_, policy, subject, found, sameDigest, sameSize⟩ := h
  unfold ReleaseManifest.validate at policy
  simp only [bind_ok, fromOption_ok, check_ok, binaryOnly_ok] at policy
  obtain ⟨target, _, _, _, _, _, artifact, only, _, named, _⟩ := policy
  rw [only] at found
  have hit : artifact.name = blob ∧ artifact = subject := by simpa using found
  obtain ⟨name, same⟩ := hit
  subst same
  exact ⟨artifact, only, name ▸ named, sameDigest, sameSize⟩

theorem expectedBinary_ne_bundleName (target : String) (index : ℕ) :
    expectedBinary target ≠ bundleName index := by
  intro same
  have chars := congrArg String.toList same
  unfold expectedBinary bundleName at chars
  rw [String.toList_append, String.toList_append] at chars
  have first := congrArg List.head? chars
  revert first
  simp

section certificates

variable {p : Platform} {repository version blob identity : String} {content other : Bytes}
variable {manifest : ReleaseManifest} {attestation : Attestation}

theorem Vouches.named (h : Vouches p version blob identity content attestation manifest)
    (index : ℕ) : blob ≠ bundleName index := by
  obtain ⟨_, _, named, _⟩ := requireArtifact_ok h.declared
  rw [named]
  exact expectedBinary_ne_bundleName _ index

theorem Vouches.not_passedOver (h : Vouches p version blob identity content attestation manifest) :
    ¬PassedOver p version blob identity content attestation := by
  intro ⟨_, stated, named, elsewhere⟩
  rw [h.stated] at named
  cases named
  exact elsewhere manifest rfl h.concerns

theorem Certified.named (h : Certified p repository version blob identity content manifest)
    (index : ℕ) : blob ≠ bundleName index := by
  obtain ⟨_, _, _, _, _, _, _, _, vouched⟩ := h
  exact vouched.named index

/-- One manifest is certified for the bytes of one digest and one length only. -/
theorem Certified.same_bytes (h : Certified p repository version blob identity content manifest)
    (h' : Certified p repository version blob identity other manifest) :
    p.sha256 content = p.sha256 other ∧ content.length = other.length := by
  obtain ⟨_, _, _, _, _, _, _, _, vouched⟩ := h
  obtain ⟨_, _, _, _, _, _, _, _, vouched'⟩ := h'
  obtain ⟨artifact, only, _, digest, size⟩ := requireArtifact_ok vouched.declared
  obtain ⟨artifact', only', _, digest', size'⟩ := requireArtifact_ok vouched'.declared
  rw [only] at only'
  cases only'
  exact ⟨digest.symm.trans digest', size.symm.trans size'⟩

/-- Cosign binds a bundle to the digest of the blob, not to its bytes. -/
def CosignReadsDigest (p : Platform) : Prop :=
  ∀ x y, p.sha256 x = p.sha256 y → ∀ bundle type identity,
    p.cosign bundle type identity x = p.cosign bundle type identity y ∧
    ∀ kind, p.containerCosign kind bundle type identity x =
      p.containerCosign kind bundle type identity y

theorem CosignReadsDigest.verify (reads : CosignReadsDigest p)
    (digest : p.sha256 content = p.sha256 other) (bundle : Bytes) (predicate : String) :
    p.verifyBlobAttestation bundle content identity predicate =
      p.verifyBlobAttestation bundle other identity predicate := by
  obtain ⟨own, container⟩ := reads content other digest bundle predicate identity
  unfold Platform.verifyBlobAttestation
  rw [own, container, container]

theorem Vouches.transfer (reads : CosignReadsDigest p) (digest : p.sha256 content = p.sha256 other)
    (size : content.length = other.length)
    (h : Vouches p version blob identity content attestation manifest) :
    Vouches p version blob identity other attestation manifest where
  envelope := h.envelope
  stated := digest ▸ h.stated
  concerns := h.concerns
  signed := reads.verify digest _ _ ▸ h.signed
  declared := digest ▸ size ▸ h.declared

theorem PassedOver.transfer (digest : p.sha256 content = p.sha256 other)
    (h : PassedOver p version blob identity content attestation) :
    PassedOver p version blob identity other attestation := by
  unfold PassedOver at h ⊢
  rwa [digest] at h

theorem Certified.transfer (reads : CosignReadsDigest p)
    (digest : p.sha256 content = p.sha256 other) (size : content.length = other.length)
    (h : Certified p repository version blob identity content manifest) :
    Certified p repository version blob identity other manifest := by
  obtain ⟨response, attestations, asked, parsed, few, every, a, member, vouched⟩ := h
  rw [digest] at asked
  have every' : ∀ a ∈ attestations, PassedOver p version blob identity other a
      ∨ Vouches p version blob identity other a manifest := by
    intro b hb
    rcases every b hb with skipped | speaks
    · exact .inl (skipped.transfer digest)
    · exact .inr (speaks.transfer reads digest size)
  exact ⟨response, attestations, asked, parsed, few, every', a, member,
    vouched.transfer reads digest size⟩

end certificates

/-! ## What the code accepts -/

/-- The workspace holds the bytes under the name of the blob, unless a bundle has that name
and may have taken its place. -/
def Holds (blob : String) (content : Bytes) (disk : Disk) : Prop :=
  ∃ found, disk.work blob = some found ∧ (found = content ∨ ∃ index, blob = bundleName index)

/-- A step that leaves the cache and the blob alone, ends, and succeeds with just these
results. -/
structure Yields {α : Type} (blob : String) (content : Bytes) (p : Platform) (step : Step α)
    (disk : Disk) (results : α → Prop) : Prop where
  ends : (step p disk).1 ≠ .crashed
  cache : (step p disk).2.cache = disk.cache
  holds : Holds blob content (step p disk).2
  result : ∀ a, (step p disk).1 = .ok a ↔ results a

section yields

variable {α β : Type} {blob : String} {content : Bytes} {p : Platform} {disk : Disk}

theorem yields_pure (holds : Holds blob content disk) (a : α) :
    Yields blob content p (pure a : Step α) disk fun b => b = a where
  ends := by simp
  cache := rfl
  holds := holds
  result b := by simp [eq_comm]

theorem yields_ofExcept (holds : Holds blob content disk) (x : Except String α) :
    Yields blob content p (ofExcept x : Step α) disk fun a => x = .ok a := by
  cases x with
  | ok a => exact ⟨by simp, rfl, holds, fun b => by simp⟩
  | error x => exact ⟨by simp, rfl, holds, fun b => by simp⟩

theorem Yields.imp {step : Step α} {R S : α → Prop} (h : Yields blob content p step disk R)
    (same : ∀ a, R a ↔ S a) : Yields blob content p step disk S where
  ends := h.ends
  cache := h.cache
  holds := h.holds
  result a := (h.result a).trans (same a)

theorem yields_bind {step : Step α} {next : α → Step β} {R : α → Prop} {S : α → β → Prop}
    (first : Yields blob content p step disk R)
    (rest : ∀ a, R a → ∀ disk', Holds blob content disk' →
      Yields blob content p (next a) disk' (S a)) :
    Yields blob content p (step >>= next) disk fun b => ∃ a, R a ∧ S a b := by
  obtain ⟨ends, cache, holds, result⟩ := first
  rcases run : step p disk with ⟨a | x | _, disk'⟩
  · rw [run] at cache holds result
    have reached : R a := (result a).mp rfl
    have only : ∀ b, R b → b = a := by
      intro b hb
      have same := (result b).mpr hb
      cases same
      rfl
    obtain ⟨ends', cache', holds', result'⟩ := rest a reached disk' holds
    rw [← run_bind_ok (f := next) run] at ends' cache' holds' result'
    refine ⟨ends', cache'.trans cache, holds', fun b => (result' b).trans ?_⟩
    constructor
    · intro hb
      exact ⟨a, reached, hb⟩
    · rintro ⟨c, hc, hb⟩
      rwa [only c hc] at hb
  · rw [run] at cache holds result
    refine ⟨?_, ?_, ?_, ?_⟩
    · rw [run_bind_error run]
      simp
    · rw [run_bind_error run]
      exact cache
    · rw [run_bind_error run]
      exact holds
    · intro b
      rw [run_bind_error run]
      constructor
      · intro same
        cases same
      · rintro ⟨c, hc, _⟩
        have same := (result c).mpr hc
        cases same
  · rw [run] at ends
    exact absurd rfl ends

/-- What was computed on the way may be taken for granted, and so may the disk. -/
theorem yields_ofExcept_bind {x : Except String α} {next : α → Step β} {S : α → β → Prop}
    (holds : Holds blob content disk)
    (rest : ∀ a, x = .ok a → Yields blob content p (next a) disk (S a)) :
    Yields blob content p (ofExcept x >>= next) disk fun b => ∃ a, x = .ok a ∧ S a b := by
  cases x with
  | ok a => exact (rest a rfl).imp fun b => by simp
  | error x => exact ⟨by simp [run_bind], rfl, holds, fun b => by simp [run_bind]⟩

theorem yields_environment {next : Platform → Step β} {R : β → Prop}
    (h : Yields blob content p (next p) disk R) :
    Yields blob content p (environment >>= next) disk R :=
  ⟨h.ends, h.cache, h.holds, h.result⟩

def wrote (name : String) (found : Bytes) (disk : Disk) : Disk :=
  { disk with work := fun file => if file = name then some found else disk.work file }

theorem yields_writeWork {name : String} {found : Bytes} {next : Unit → Step β} {R : β → Prop}
    (h : Yields blob content p (next ()) (wrote name found disk) R) :
    Yields blob content p (writeWork name found >>= next) disk R :=
  ⟨h.ends, h.cache, h.holds, h.result⟩

theorem readWork_found {name : String} {found : Bytes} (there : disk.work name = some found) :
    readWork name p disk = (.ok found, disk) := by
  show ofExcept (fromOption s!"failed to open {name}" (disk.work name)) p disk = _
  rw [there]
  rfl

theorem yields_readWork {name : String} {found : Bytes} {next : Bytes → Step β} {R : β → Prop}
    (there : disk.work name = some found)
    (h : Yields blob content p (next found) disk R) :
    Yields blob content p (readWork name >>= next) disk R := by
  obtain ⟨ends, cache, holds, result⟩ := h
  rw [← run_bind_ok (f := next) (readWork_found there)] at ends cache holds result
  exact ⟨ends, cache, holds, result⟩

theorem wrote_bundle (index : ℕ) (bundle : Bytes) (h : Holds blob content disk) :
    Holds blob content (wrote (bundleName index) bundle disk) := by
  obtain ⟨found, there, which⟩ := h
  by_cases same : blob = bundleName index
  · exact ⟨bundle, by simp [wrote, same], .inr ⟨index, same⟩⟩
  · exact ⟨found, by simp [wrote, same, there], which⟩

end yields


section loop

variable {p : Platform} {repository version blob identity : String} {content : Bytes}
variable {disk : Disk}

theorem acceptVerifiedManifest_ok {candidate : ReleaseManifest}
    {verified r : Option ReleaseManifest} :
    acceptVerifiedManifest candidate verified = .ok r ↔
      r = some candidate ∧ (verified = none ∨ verified = some candidate) := by
  cases verified with
  | none => simp [acceptVerifiedManifest, eq_comm]
  | some existing =>
    by_cases same : existing = candidate
    · simp [acceptVerifiedManifest, same, eq_comm]
    · simp [acceptVerifiedManifest, same]

/-- What the release says of a bundle that is signed for these bytes. -/
def Accepts (p : Platform) (version blob identity : String) (content bundle : Bytes)
    (verified : Option ReleaseManifest) (manifest : ReleaseManifest)
    (r : Option ReleaseManifest) : Prop :=
  p.verifyBlobAttestation bundle content identity releasePredicate = .ok () ∧
  requireArtifact p version identity blob (p.sha256 content) content.length manifest = .ok () ∧
  r = some manifest ∧ (verified = none ∨ verified = some manifest)

theorem considerCandidate_over {index : ℕ} {verified stated : Option ReleaseManifest}
    (elsewhere : ∀ manifest, stated = some manifest →
      ¬(manifest.version = version ∧ manifest.releaseIdentity = identity)) (digest : String) :
    considerCandidate version blob digest identity index verified stated = pure verified := by
  cases stated with
  | none => rfl
  | some manifest => exact if_neg (elsewhere manifest rfl)

theorem considerCandidate_yields {index : ℕ} {verified : Option ReleaseManifest}
    {manifest : ReleaseManifest} {bundle : Bytes}
    (concerns : manifest.version = version ∧ manifest.releaseIdentity = identity)
    (written : disk.work (bundleName index) = some bundle) (holds : Holds blob content disk) :
    Yields blob content p
      (considerCandidate version blob (p.sha256 content) identity index verified (some manifest))
      disk (Accepts p version blob identity content bundle verified manifest) := by
  obtain ⟨found, there, which⟩ := id holds
  unfold considerCandidate
  simp only
  rw [if_pos concerns]
  apply yields_environment
  apply yields_readWork written
  apply yields_readWork there
  apply Yields.imp
  · apply yields_ofExcept_bind holds
    intro _ _
    apply yields_ofExcept_bind holds
    intro _ _
    exact yields_ofExcept holds _
  · intro r
    simp only [context_ok, exists_unit, acceptVerifiedManifest_ok]
    unfold Accepts
    by_cases same : found = content
    · rw [same]
    · -- a blob under the name of a bundle is declared by no manifest
      have odd := which.resolve_left same
      constructor
      · intro ⟨_, declared, _⟩
        obtain ⟨_, _, named, _⟩ := requireArtifact_ok declared
        obtain ⟨index, other⟩ := odd
        exact absurd (named.symm.trans other) (expectedBinary_ne_bundleName _ index)
      · intro ⟨_, declared, _⟩
        obtain ⟨_, _, named, _⟩ := requireArtifact_ok declared
        obtain ⟨index, other⟩ := odd
        exact absurd (named.symm.trans other) (expectedBinary_ne_bundleName _ index)

/-- What one attestation makes of the manifest that the earlier ones agreed on. -/
def Turn (p : Platform) (version blob identity : String) (content : Bytes)
    (attestation : Attestation) (verified r : Option ReleaseManifest) : Prop :=
  PassedOver p version blob identity content attestation ∧ r = verified ∨
  ∃ manifest, Vouches p version blob identity content attestation manifest ∧
    r = some manifest ∧ (verified = none ∨ verified = some manifest)

theorem considerAttestation_yields (index : ℕ) (verified : Option ReleaseManifest)
    (attestation : Attestation) (holds : Holds blob content disk) :
    Yields blob content p
      (considerAttestation version blob (p.sha256 content) identity index verified attestation)
      disk (Turn p version blob identity content attestation verified) := by
  have kept := wrote_bundle index (p.jsonBytes attestation.bundle) holds
  have written : (wrote (bundleName index) (p.jsonBytes attestation.bundle) disk).work
      (bundleName index) = some (p.jsonBytes attestation.bundle) := by simp [wrote]
  unfold considerAttestation
  apply yields_environment
  apply Yields.imp
  · apply yields_ofExcept_bind holds
    intro _ _
    apply yields_writeWork
    apply yields_ofExcept_bind kept (S := fun stated r =>
      (∀ manifest, stated = some manifest →
        ¬(manifest.version = version ∧ manifest.releaseIdentity = identity)) ∧ r = verified ∨
      ∃ manifest, stated = some manifest ∧
        (manifest.version = version ∧ manifest.releaseIdentity = identity) ∧
        Accepts p version blob identity content (p.jsonBytes attestation.bundle) verified
          manifest r)
    intro stated _
    by_cases elsewhere : ∀ manifest, stated = some manifest →
        ¬(manifest.version = version ∧ manifest.releaseIdentity = identity)
    · rw [considerCandidate_over elsewhere]
      apply (yields_pure kept verified).imp
      intro r
      constructor
      · intro same
        exact .inl ⟨elsewhere, same⟩
      · rintro (⟨_, same⟩ | ⟨manifest, same, concerns, _⟩)
        · exact same
        · exact absurd concerns (elsewhere manifest same)
    · push Not at elsewhere
      obtain ⟨manifest, same, concerns⟩ := elsewhere
      rw [same]
      apply (considerCandidate_yields concerns written kept).imp
      intro r
      constructor
      · intro accepted
        exact .inr ⟨manifest, rfl, concerns, accepted⟩
      · rintro (⟨no, _⟩ | ⟨_, same', _, accepted⟩)
        · exact absurd concerns (no manifest rfl)
        · cases same'
          exact accepted
  · intro r
    constructor
    · rintro ⟨_, envelope, stated, named, ⟨elsewhere, same⟩ | ⟨manifest, is, concerns, accepted⟩⟩
      · exact .inl ⟨⟨envelope, stated, named, elsewhere⟩, same⟩
      · subst is
        obtain ⟨signed, declared, rest⟩ := accepted
        exact .inr ⟨manifest, ⟨envelope, named, concerns, signed, declared⟩, rest⟩
    · rintro (⟨⟨envelope, stated, named, elsewhere⟩, same⟩ | ⟨manifest, vouched, rest⟩)
      · exact ⟨(), envelope, stated, named, .inl ⟨elsewhere, same⟩⟩
      · exact ⟨(), vouched.envelope, some manifest, vouched.stated,
          .inr ⟨manifest, rfl, vouched.concerns, vouched.signed, vouched.declared, rest⟩⟩

/-- What a row of attestations makes of it. -/
def Tallied (p : Platform) (version blob identity : String) (content : Bytes)
    (attestations : List Attestation) (verified r : Option ReleaseManifest) : Prop :=
  (∀ a ∈ attestations, PassedOver p version blob identity content a
    ∨ ∃ manifest, r = some manifest ∧ Vouches p version blob identity content a manifest) ∧
  (r = verified ∨ verified = none ∧ ∃ a ∈ attestations, ∃ manifest, r = some manifest ∧
    Vouches p version blob identity content a manifest)

theorem tallied_cons {a : Attestation} {rest : List Attestation}
    {verified r : Option ReleaseManifest} :
    (∃ v, Turn p version blob identity content a verified v ∧
        Tallied p version blob identity content rest v r) ↔
      Tallied p version blob identity content (a :: rest) verified r := by
  constructor
  · rintro ⟨v, ⟨skipped, same⟩ | ⟨manifest, vouched, same, agreed⟩, every, origin⟩
    · subst same
      refine ⟨List.forall_mem_cons.mpr ⟨.inl skipped, every⟩, ?_⟩
      rcases origin with kept | ⟨fresh, b, member, found⟩
      · exact .inl kept
      · exact .inr ⟨fresh, b, List.mem_cons_of_mem a member, found⟩
    · subst same
      have result : r = some manifest := by
        rcases origin with kept | ⟨fresh, _⟩
        · exact kept
        · cases fresh
      refine ⟨List.forall_mem_cons.mpr ⟨.inr ⟨manifest, result, vouched⟩, every⟩, ?_⟩
      rcases agreed with fresh | same
      · exact .inr ⟨fresh, a, List.mem_cons_self, manifest, result, vouched⟩
      · exact .inl (result.trans same.symm)
  · rintro ⟨every, origin⟩
    obtain ⟨first, others⟩ := List.forall_mem_cons.mp every
    rcases first with skipped | ⟨manifest, result, vouched⟩
    · refine ⟨verified, .inl ⟨skipped, rfl⟩, others, ?_⟩
      rcases origin with kept | ⟨fresh, b, member, manifest, result, vouched⟩
      · exact .inl kept
      · rcases List.mem_cons.mp member with same | inside
        · exact absurd (same ▸ skipped) vouched.not_passedOver
        · exact .inr ⟨fresh, b, inside, manifest, result, vouched⟩
    · refine ⟨some manifest, .inr ⟨manifest, vouched, rfl, ?_⟩, others, .inl result⟩
      rcases origin with kept | ⟨fresh, _⟩
      · exact .inr (kept.symm.trans result)
      · exact .inl fresh

theorem considerAttestations_yields (attestations : List Attestation) (index : ℕ)
    (verified : Option ReleaseManifest) (holds : Holds blob content disk) :
    Yields blob content p
      (considerAttestations version blob (p.sha256 content) identity index verified attestations)
      disk (Tallied p version blob identity content attestations verified) := by
  induction attestations generalizing index verified disk with
  | nil => exact (yields_pure holds verified).imp fun r => by simp [Tallied]
  | cons a rest ih =>
    unfold considerAttestations
    apply Yields.imp
    · exact yields_bind (considerAttestation_yields index verified a holds)
        fun v _ disk' holds' => ih (index + 1) v holds'
    · intro r
      exact tallied_cons

theorem tallied_some {attestations : List Attestation} {manifest : ReleaseManifest} :
    Tallied p version blob identity content attestations none (some manifest) ↔
      (∀ a ∈ attestations, PassedOver p version blob identity content a
        ∨ Vouches p version blob identity content a manifest) ∧
      ∃ a ∈ attestations, Vouches p version blob identity content a manifest := by
  simp [Tallied]

theorem yields_require_bind {α : Type} {c : Prop} [Decidable c] {error : String}
    {next : Unit → Step α} {R : α → Prop} (holds : Holds blob content disk)
    (rest : c → Yields blob content p (next ()) disk R) :
    Yields blob content p (require c error >>= next) disk fun a => c ∧ R a := by
  by_cases h : c
  · have step : (require c error >>= next : Step α) = next () := by
      unfold require
      rw [if_pos h]
      rfl
    rw [step]
    exact (rest h).imp fun a => by simp [h]
  · have step : (require c error >>= next : Step α) = throw error := by
      unfold require
      rw [if_neg h]
      rfl
    rw [step]
    exact ⟨by simp, rfl, holds, fun a => by simp [h]⟩

variable (p version identity) in
theorem verifiedManifest_yields (response : String) (holds : Holds blob content disk) :
    Yields blob content p
      (verifiedManifestFromAttestations response version blob (p.sha256 content) identity) disk
      fun manifest => ∃ attestations, p.parseResponse response = .ok attestations ∧
        (attestations ≠ [] ∧ attestations.length ≤ maxAttestations) ∧
        Tallied p version blob identity content attestations none (some manifest) := by
  unfold verifiedManifestFromAttestations
  apply yields_environment
  apply Yields.imp
  · apply yields_ofExcept_bind holds
    intro attestations _
    apply yields_require_bind holds
    intro _
    apply yields_bind (considerAttestations_yields attestations 0 none holds)
    intro verified _ disk' holds'
    exact yields_ofExcept holds' _
  · intro manifest
    simp [context_ok, fromOption_ok]

variable (p repository) in
theorem fetch_yields (digest predicate : String) (holds : Holds blob content disk) :
    Yields blob content p (fetchGithubAttestationResponse repository digest predicate) disk
      fun response => p.attestations repository digest predicate = .ok (some response) := by
  unfold fetchGithubAttestationResponse
  apply yields_environment
  apply Yields.imp
  · apply yields_ofExcept_bind holds
    intro output _
    exact yields_ofExcept holds _
  · intro response
    simp [mapError_ok, fromOption_ok]

theorem certified_iff {manifest : ReleaseManifest} :
    (∃ response, p.attestations repository (p.sha256 content) releasePredicate
        = .ok (some response) ∧
      ∃ attestations, p.parseResponse response = .ok attestations ∧
        (attestations ≠ [] ∧ attestations.length ≤ maxAttestations) ∧
        Tallied p version blob identity content attestations none (some manifest)) ↔
      Certified p repository version blob identity content manifest := by
  constructor
  · rintro ⟨response, asked, attestations, parsed, ⟨_, few⟩, tallied⟩
    obtain ⟨every, vouched⟩ := tallied_some.mp tallied
    exact ⟨response, attestations, asked, parsed, few, every, vouched⟩
  · rintro ⟨response, attestations, asked, parsed, few, every, a, member, vouched⟩
    exact ⟨response, asked, attestations, parsed, ⟨List.ne_nil_of_mem member, few⟩,
      tallied_some.mpr ⟨every, a, member, vouched⟩⟩

end loop


/-! ## A candidate -/

/-- GitHub answers a query for the digest of the bytes. -/
def Answers (p : Platform) (repository : String) (content : Bytes) : Prop :=
  ∃ response, p.attestations repository (p.sha256 content) releasePredicate = .ok (some response)

section candidate

variable {p : Platform} {repository version blob identity : String} {content : Bytes}
variable {disk : Disk}

theorem Certified.answers {manifest : ReleaseManifest}
    (h : Certified p repository version blob identity content manifest) :
    Answers p repository content := by
  obtain ⟨response, _, asked, _⟩ := h
  exact ⟨response, asked⟩

theorem Certified.found {manifest : ReleaseManifest}
    (h : Certified p repository version blob identity content manifest)
    (holds : Holds blob content disk) : disk.work blob = some content := by
  obtain ⟨found, there, same | ⟨index, odd⟩⟩ := holds
  · rw [there, same]
  · exact absurd odd (h.named index)

theorem digestOf_found (there : disk.work blob = some content) :
    digestOf blob p disk = (.ok (p.sha256 content), disk) := by
  show (readWork blob >>= fun found => pure (p.sha256 found)) p disk = _
  rw [run_bind_ok (readWork_found there)]
  rfl

variable (p repository version identity) in
/-- The first verification of what lies in the workspace, and what is made of it. -/
theorem first_run {β : Type} (there : disk.work blob = some content)
    (rest : Except String ReleaseManifest → Step β) :
    (∃ x disk', (do
        let digest ← digestOf blob
        let response ← fetchGithubAttestationResponse repository digest releasePredicate
        let first ← attempt
          (verifiedManifestFromAttestations response version blob digest identity)
        rest first) p disk = (.error x, disk') ∧
      ¬Answers p repository content ∧ disk'.cache = disk.cache) ∨
    ∃ first disk', (do
        let digest ← digestOf blob
        let response ← fetchGithubAttestationResponse repository digest releasePredicate
        let first ← attempt
          (verifiedManifestFromAttestations response version blob digest identity)
        rest first) p disk = rest first p disk' ∧
      Answers p repository content ∧ disk'.cache = disk.cache ∧ Holds blob content disk' ∧
      ∀ manifest, first = .ok manifest ↔
        Certified p repository version blob identity content manifest := by
  have holds : Holds blob content disk := ⟨content, there, .inl rfl⟩
  rw [run_bind_ok (digestOf_found there)]
  obtain ⟨ends, cache, holds₁, asked⟩ :=
    fetch_yields p repository (p.sha256 content) releasePredicate holds
  rcases run : fetchGithubAttestationResponse repository (p.sha256 content) releasePredicate p disk
    with ⟨response | x | _, disk₁⟩
  · right
    rw [run] at cache holds₁ asked
    rw [run_bind_ok run]
    have answer := (asked response).mp rfl
    obtain ⟨ends', cache', holds₂, result⟩ := verifiedManifest_yields p
      version identity response holds₁
    have certified : ∀ manifest,
        (∃ attestations, p.parseResponse response = .ok attestations ∧
          (attestations ≠ [] ∧ attestations.length ≤ maxAttestations) ∧
          Tallied p version blob identity content attestations none (some manifest)) ↔
        Certified p repository version blob identity content manifest := by
      intro manifest
      rw [← certified_iff]
      constructor
      · intro told
        exact ⟨response, answer, told⟩
      · intro ⟨response', answer', told⟩
        rw [answer] at answer'
        cases answer'
        exact told
    rw [run_bind, run_attempt]
    rcases verdict : verifiedManifestFromAttestations response version blob (p.sha256 content)
      identity p disk₁ with ⟨manifest | x | _, disk₂⟩
    · rw [verdict] at cache' holds₂ result
      refine ⟨.ok manifest, disk₂, rfl, ⟨response, answer⟩, cache'.trans cache, holds₂, ?_⟩
      intro m
      rw [← certified m, ← result m]
      simp
    · rw [verdict] at cache' holds₂ result
      refine ⟨.error x, disk₂, rfl, ⟨response, answer⟩, cache'.trans cache, holds₂, ?_⟩
      intro m
      rw [← certified m, ← result m]
      simp
    · rw [verdict] at ends'
      exact absurd rfl ends'
  · left
    rw [run] at cache asked
    rw [run_bind_error run]
    refine ⟨x, disk₁, rfl, ?_, cache⟩
    intro ⟨response, answer⟩
    have same := (asked response).mpr answer
    cases same
  · rw [run] at ends
    exact absurd rfl ends

theorem inContext_yields {α : Type} {step : Step α} {text : String} {R : α → Prop}
    (h : Yields blob content p step disk R) : Yields blob content p (inContext text step) disk R := by
  obtain ⟨ends, cache, holds, result⟩ := h
  rcases run : step p disk with ⟨a | x | _, disk'⟩
  · have step_run : inContext text step p disk = (.ok a, disk') := by
      unfold inContext
      rw [run_bind, run_attempt, run]
      rfl
    rw [run, ← step_run] at ends cache holds result
    exact ⟨ends, cache, holds, result⟩
  · have step_run : inContext text step p disk = (.error s!"{text}: {x}", disk') := by
      unfold inContext
      rw [run_bind, run_attempt, run]
      rfl
    rw [run] at cache holds result
    refine ⟨by rw [step_run]; simp, by rw [step_run]; exact cache,
      by rw [step_run]; exact holds, ?_⟩
    intro a
    rw [step_run, ← result a]
    simp
  · rw [run] at ends
    exact absurd rfl ends

theorem yields_digestOf {β : Type} {next : String → Step β} {R : β → Prop}
    (there : disk.work blob = some content)
    (h : Yields blob content p (next (p.sha256 content)) disk R) :
    Yields blob content p (digestOf blob >>= next) disk R := by
  obtain ⟨ends, cache, holds, result⟩ := h
  rw [← run_bind_ok (f := next) (digestOf_found there)] at ends cache holds result
  exact ⟨ends, cache, holds, result⟩

variable (p repository version blob identity disk) in
theorem verifyFresh_yields (cachedError : String) :
    Yields blob (p.asset repository version blob) p
      (verifyFresh repository version blob identity cachedError) disk
      (Certified p repository version blob identity (p.asset repository version blob)) := by
  have there : (wrote blob (p.asset repository version blob) disk).work blob
      = some (p.asset repository version blob) := by simp [wrote]
  have holds : Holds blob (p.asset repository version blob)
      (wrote blob (p.asset repository version blob) disk) := ⟨_, there, .inl rfl⟩
  have rest : Yields blob (p.asset repository version blob) p (do
        let freshDigest ← digestOf blob
        let freshResponse ← fetchGithubAttestationResponse repository freshDigest releasePredicate
        inContext (freshContext cachedError)
          (verifiedManifestFromAttestations freshResponse version blob freshDigest identity))
      (wrote blob (p.asset repository version blob) disk)
      (Certified p repository version blob identity (p.asset repository version blob)) := by
    apply yields_digestOf there
    apply Yields.imp
    · apply yields_bind (fetch_yields p repository _ _ holds)
      intro response _ disk' holds'
      exact inContext_yields (verifiedManifest_yields p version identity response holds')
    · intro manifest
      exact certified_iff
  exact ⟨rest.ends, rest.cache, rest.holds, rest.result⟩

end candidate

section runs

variable (p : Platform) (repository version blob identity : String)

/-- A run of `verifiedReleaseCandidate` on some bytes that are or become those of the
workspace. -/
structure Ends (root : Option String) (disk : Disk) (content : Bytes)
    (results : ReleaseManifest → Prop) : Prop where
  result : ∀ manifest, (verifiedReleaseCandidate repository version blob identity root p disk).1
    = .ok manifest ↔ results manifest
  work : ∀ manifest, results manifest →
    (verifiedReleaseCandidate repository version blob identity root p disk).2.work blob
      = some content
  stored : ∀ file bytes,
    (verifiedReleaseCandidate repository version blob identity root p disk).2.cache file
      = some bytes → disk.cache file = some bytes ∨
      Verified p repository version blob identity bytes

/-- The cached bytes that a run would use. -/
def hit (root : Option String) (disk : Disk) : Option Bytes :=
  root.bind fun root => disk.readCache p (entryPath root repository version blob)

end runs

section candidate

variable {p : Platform} {repository version blob identity : String} {content : Bytes}
variable {disk : Disk} {root : Option String}

theorem copyFromCache_miss (miss : hit p repository version blob root disk = none) :
    copyFromCache repository version blob root p disk = (.ok none, disk) := by
  cases root with
  | none => rfl
  | some base =>
    show keepCopy blob (entryPath base repository version blob)
      (disk.readCache p (entryPath base repository version blob)) p disk = _
    have none_read : disk.readCache p (entryPath base repository version blob) = none := miss
    rw [none_read]
    rfl

theorem copyFromCache_hit (found : hit p repository version blob root disk = some content) :
    ∃ base, root = some base ∧ copyFromCache repository version blob root p disk =
      (.ok (some (entryPath base repository version blob)), wrote blob content disk) := by
  cases root with
  | none => cases found
  | some base =>
    refine ⟨base, rfl, ?_⟩
    show keepCopy blob (entryPath base repository version blob)
      (disk.readCache p (entryPath base repository version blob)) p disk = _
    have read : disk.readCache p (entryPath base repository version blob) = some content := found
    rw [read]
    rfl

variable (blob) in
theorem wrote_found (bytes : Bytes) (disk : Disk) :
    (wrote blob bytes disk).work blob = some bytes := by
  simp [wrote]

/-- Verified bytes are stored, or the cache stays as it is. -/
theorem storeInCache_run (path : String) (there : disk.work blob = some content) :
    storeInCache path blob p disk = (.ok (),
      if p.storable path then
        { disk with cache := fun file => if file = path then some content else disk.cache file }
      else disk) := by
  show onlyIf (p.storable path) (readWork blob >>= fun found => modify fun disk =>
    { disk with cache := fun file => if file = path then some found else disk.cache file })
    p disk = _
  by_cases storable : p.storable path
  · rw [run_onlyIf_true _ storable, run_bind_ok (readWork_found there), if_pos storable]
    rfl
  · rw [run_onlyIf_false _ storable, if_neg storable]

end candidate

section candidate

variable {p : Platform} {repository version blob identity : String} {content : Bytes}
variable {disk : Disk} {root : Option String}

variable (p repository version root) in
theorem conclude_run (manifest : ReleaseManifest) (cached : Option String)
    (there : disk.work blob = some content) :
    ∃ disk', conclude repository version blob root (manifest, cached) p disk
        = (.ok manifest, disk') ∧ disk'.work = disk.work ∧
      ∀ file bytes, disk'.cache file = some bytes →
        disk.cache file = some bytes ∨ bytes = content := by
  cases root with
  | none => exact ⟨disk, rfl, rfl, fun _ _ same => .inl same⟩
  | some base =>
    show ∃ disk', (onlyIf (cached = none)
        (storeInCache (entryPath base repository version blob) blob) >>= fun _ =>
      (pure manifest : Step ReleaseManifest)) p disk = (.ok manifest, disk') ∧ _
    by_cases fresh : cached = none
    · rw [run_bind, run_onlyIf_true _ fresh, storeInCache_run _ there]
      refine ⟨_, rfl, ?_⟩
      by_cases storable : p.storable (entryPath base repository version blob)
      · rw [if_pos storable]
        refine ⟨rfl, ?_⟩
        intro file bytes stored
        by_cases same : file = entryPath base repository version blob
        · right
          simpa [same, eq_comm] using stored
        · left
          simpa [same] using stored
      · rw [if_neg storable]
        exact ⟨rfl, fun _ _ same => .inl same⟩
    · rw [run_bind, run_onlyIf_false _ fresh]
      exact ⟨disk, rfl, rfl, fun _ _ same => .inl same⟩

/-- A run that ends as some manifest's run does, once the bytes are verified. -/
theorem ends_of_conclude {manifest : ReleaseManifest} {cached : Option String} {disk' : Disk}
    {R : ReleaseManifest → Prop}
    (run : verifiedReleaseCandidate repository version blob identity root p disk =
      conclude repository version blob root (manifest, cached) p disk')
    (cache : ∀ file bytes, disk'.cache file = some bytes → disk.cache file = some bytes)
    (holds : Holds blob content disk')
    (certified : Certified p repository version blob identity content manifest)
    (only : ∀ m, R m ↔ m = manifest) :
    Ends p repository version blob identity root disk content R := by
  have there := certified.found holds
  obtain ⟨disk'', concluded, work, stored⟩ := conclude_run p repository version
    root manifest cached there
  rw [concluded] at run
  refine ⟨?_, ?_, ?_⟩
  · intro m
    rw [run, only m]
    simp [eq_comm]
  · intro m _
    rw [run]
    show disk''.work blob = some content
    rw [work, there]
  · intro file bytes found
    rw [run] at found
    rcases stored file bytes found with before | same
    · exact .inl (cache file bytes before)
    · exact .inr ⟨manifest, same ▸ certified⟩

theorem ends_of_error {x : String} {disk' : Disk} {R : ReleaseManifest → Prop}
    (run : verifiedReleaseCandidate repository version blob identity root p disk =
      (.error x, disk'))
    (cache : ∀ file bytes, disk'.cache file = some bytes → disk.cache file = some bytes)
    (none_certified : ∀ m, ¬R m) :
    Ends p repository version blob identity root disk content R := by
  refine ⟨?_, ?_, ?_⟩
  · intro m
    rw [run]
    constructor
    · intro same
      cases same
    · intro reached
      exact absurd reached (none_certified m)
  · intro m reached
    exact absurd reached (none_certified m)
  · intro file bytes found
    rw [run] at found
    exact .inl (cache file bytes found)

theorem certified_unique {manifest other : ReleaseManifest} {first : Except String ReleaseManifest}
    (result : ∀ manifest, first = .ok manifest ↔
      Certified p repository version blob identity content manifest)
    (h : first = .ok manifest) :
    Certified p repository version blob identity content other ↔ other = manifest := by
  rw [← result other, h]
  simp [eq_comm]

variable (identity) in
theorem candidate_miss (miss : hit p repository version blob root disk = none) :
    Ends p repository version blob identity root disk (p.asset repository version blob)
      (Certified p repository version blob identity (p.asset repository version blob)) := by
  have start := copyFromCache_miss miss
  have there := wrote_found blob (p.asset repository version blob) disk
  have head : verifiedReleaseCandidate repository version blob identity root p disk =
      (do
        let digest ← digestOf blob
        let response ← fetchGithubAttestationResponse repository digest releasePredicate
        let first ← attempt
          (verifiedManifestFromAttestations response version blob digest identity)
        settle repository version blob identity none first >>=
          conclude repository version blob root : Step ReleaseManifest) p
        (wrote blob (p.asset repository version blob) disk) := by
    unfold verifiedReleaseCandidate
    rw [run_bind_ok start]
    rfl
  rcases first_run p repository version identity there (fun first =>
        settle repository version blob identity none first >>=
          conclude repository version blob root) with
    ⟨x, disk', run, silent, cache⟩ | ⟨first, disk', run, _, cache, holds, result⟩
  · apply ends_of_error (head.trans run)
    · intro file bytes found
      rwa [cache] at found
    · intro m certified
      exact silent certified.answers
  · cases first with
    | ok manifest =>
      apply ends_of_conclude (head.trans run)
      · intro file bytes found
        rwa [cache] at found
      · exact holds
      · exact (result manifest).mp rfl
      · intro m
        exact certified_unique result rfl
    | error x =>
      apply ends_of_error (head.trans run)
      · intro file bytes found
        rwa [cache] at found
      · intro m certified
        have same := (result m).mpr certified
        cases same

variable (identity) in
theorem hit_head (base : String)
    (start : copyFromCache repository version blob root p disk =
      (.ok (some (entryPath base repository version blob)), wrote blob content disk)) :
    verifiedReleaseCandidate repository version blob identity root p disk =
      (do
        let digest ← digestOf blob
        let response ← fetchGithubAttestationResponse repository digest releasePredicate
        let first ← attempt
          (verifiedManifestFromAttestations response version blob digest identity)
        settle repository version blob identity (some (entryPath base repository version blob))
          first >>= conclude repository version blob root : Step ReleaseManifest) p
        (wrote blob content disk) := by
  unfold verifiedReleaseCandidate
  rw [run_bind_ok start]
  rfl

/-- Cached bytes that pass are used as they are. -/
theorem candidate_hit_verified
    (found : hit p repository version blob root disk = some content)
    (verified : Verified p repository version blob identity content) :
    Ends p repository version blob identity root disk content
      (Certified p repository version blob identity content) := by
  obtain ⟨base, _, start⟩ := copyFromCache_hit found
  have head := hit_head identity base start
  obtain ⟨accepted, certified⟩ := verified
  rcases first_run p repository version identity (wrote_found blob content disk) (fun first =>
        settle repository version blob identity (some (entryPath base repository version blob))
          first >>= conclude repository version blob root) with
    ⟨x, disk', run, silent, cache⟩ | ⟨first, disk', run, _, cache, holds, result⟩
  · exact absurd certified.answers silent
  · have passed := (result accepted).mpr certified
    subst passed
    apply ends_of_conclude (head.trans run)
    · intro file bytes stored
      rwa [cache] at stored
    · exact holds
    · exact certified
    · intro m
      exact certified_unique result rfl

def dropped (path : String) (disk : Disk) : Disk :=
  { disk with cache := fun file => if file = path then none else disk.cache file }

theorem dropped_kept {path file : String} {bytes : Bytes}
    (stored : (dropped path disk).cache file = some bytes) : disk.cache file = some bytes := by
  by_cases same : file = path
  · simp [dropped, same] at stored
  · simpa [dropped, same] using stored

theorem settle_removed {β : Type} {path cachedError : String}
    (next : ReleaseManifest × Option String → Step β) (removable : p.removable path) :
    (settle repository version blob identity (some path) (.error cachedError) >>= next) p disk =
      (verifyFresh repository version blob identity cachedError >>= fun manifest =>
        next (manifest, none)) p (dropped path disk) := by
  have removed : removeFailedCachedRelease path p disk = (.ok (), dropped path disk) := by
    unfold removeFailedCachedRelease
    have allowed : (require (p.removable path)
        s!"cached Release artifact failed verification but could not be removed: {path}"
        : Step Unit) p disk = (.ok (), disk) := by
      rw [run_require, if_pos removable]
    rw [run_bind_ok run_environment, run_bind_ok allowed]
    rfl
  rw [run_bind]
  unfold settle
  simp only
  rw [run_bind_ok removed]
  rcases again : verifyFresh repository version blob identity cachedError p (dropped path disk)
    with ⟨manifest | y | _, disk'⟩
  · rw [run_bind_ok again, run_bind_ok again]
    rfl
  · rw [run_bind_error again, run_bind_error again]
  · rw [run_bind_crashed again, run_bind_crashed again]

theorem settle_stuck {β : Type} {path cachedError : String}
    (next : ReleaseManifest × Option String → Step β) (stuck : ¬p.removable path) :
    (settle repository version blob identity (some path) (.error cachedError) >>= next) p disk =
      (.error s!"cached Release artifact failed verification but could not be removed: {path}",
        disk) := by
  rw [run_bind]
  unfold settle removeFailedCachedRelease
  simp only
  rw [run_bind, run_bind_ok run_environment, run_bind, run_require, if_neg stuck]

variable (identity) in
/-- Cached bytes that do not pass are replaced by the download, once GitHub has answered for
them and their file is gone. -/
theorem candidate_hit_rejected {base : String} (based : root = some base)
    (found : hit p repository version blob root disk = some content)
    (rejected : ¬Verified p repository version blob identity content) :
    Ends p repository version blob identity root disk (p.asset repository version blob)
      fun manifest => Answers p repository content ∧
        p.removable (entryPath base repository version blob) ∧
        Certified p repository version blob identity (p.asset repository version blob)
          manifest := by
  obtain ⟨base', same, start⟩ := copyFromCache_hit found
  rw [based] at same
  cases same
  have head := hit_head identity base start
  rcases first_run p repository version identity (wrote_found blob content disk) (fun first =>
        settle repository version blob identity (some (entryPath base repository version blob))
          first >>= conclude repository version blob root) with
    ⟨x, disk', run, silent, cache⟩ | ⟨first, disk', run, answers, cache, _, result⟩
  · apply ends_of_error (head.trans run)
    · intro file bytes stored
      rwa [cache] at stored
    · intro m ⟨answers, _⟩
      exact silent answers
  have untouched : ∀ file bytes, disk'.cache file = some bytes → disk.cache file = some bytes := by
    intro file bytes stored
    rwa [cache] at stored
  cases first with
  | ok manifest => exact absurd ⟨manifest, (result manifest).mp rfl⟩ rejected
  | error cachedError =>
    by_cases removable : p.removable (entryPath base repository version blob)
    · rw [settle_removed _ removable] at run
      obtain ⟨ends, kept, holds, fresh⟩ := verifyFresh_yields p
        repository version blob identity (dropped (entryPath base repository version blob) disk')
        cachedError
      rcases again : verifyFresh repository version blob identity cachedError p
        (dropped (entryPath base repository version blob) disk') with ⟨manifest | y | _, disk''⟩
      · rw [again] at kept holds fresh
        rw [run_bind_ok again] at run
        apply ends_of_conclude (head.trans run)
        · intro file bytes stored
          rw [kept] at stored
          exact untouched file bytes (dropped_kept stored)
        · exact holds
        · exact (fresh manifest).mp rfl
        · intro m
          have only : Certified p repository version blob identity
              (p.asset repository version blob) m ↔ m = manifest := by
            rw [← fresh m]
            simp [eq_comm]
          simp [answers, removable, only]
      · rw [again] at kept fresh
        rw [run_bind_error again] at run
        apply ends_of_error (head.trans run)
        · intro file bytes stored
          rw [kept] at stored
          exact untouched file bytes (dropped_kept stored)
        · intro m ⟨_, _, certified⟩
          have same := (fresh m).mpr certified
          cases same
      · rw [again] at ends
        exact absurd rfl ends
    · rw [settle_stuck _ removable] at run
      apply ends_of_error (head.trans run) untouched
      intro m ⟨_, possible, _⟩
      exact removable possible

end candidate

/-! ## Transparency -/

/-- The run with a cache against the run with an empty one: the same manifests, workspaces of
the same digest, and nothing in the cache that was not there before or fully verified. -/
structure Transparent (p : Platform) (repository version blob identity : String)
    (root : Option String) (disk : Disk) : Prop where
  same : ∀ manifest,
    (verifiedReleaseCandidate repository version blob identity root p disk).1 = .ok manifest ↔
      (verifiedReleaseCandidate repository version blob identity root p
        { disk with cache := fun _ => none }).1 = .ok manifest
  digest : ∀ manifest,
    (verifiedReleaseCandidate repository version blob identity root p disk).1 = .ok manifest →
      ((verifiedReleaseCandidate repository version blob identity root p disk).2.work blob).map
          p.sha256 =
        ((verifiedReleaseCandidate repository version blob identity root p
          { disk with cache := fun _ => none }).2.work blob).map p.sha256
  stored : ∀ file bytes,
    (verifiedReleaseCandidate repository version blob identity root p disk).2.cache file
      = some bytes → disk.cache file = some bytes ∨
      Verified p repository version blob identity bytes

/-- A cached entry that does not stand in the way of the download. -/
def Harmless (p : Platform) (repository version blob identity path : String)
    (content : Bytes) : Prop :=
  (Verified p repository version blob identity content →
    p.sha256 content = p.sha256 (p.asset repository version blob) ∧
    content.length = (p.asset repository version blob).length) ∧
  (¬Verified p repository version blob identity content →
    Verified p repository version blob identity (p.asset repository version blob) →
    Answers p repository content ∧ p.removable path)

section transparency

variable {p : Platform} {repository version blob identity : String} {content : Bytes}
variable {disk : Disk} {root : Option String}

theorem empty_miss : hit p repository version blob root { disk with cache := fun _ => none }
    = none := by
  cases root with
  | none => rfl
  | some base => simp [hit, Disk.readCache]

variable (p repository version blob identity root disk) in
theorem candidate_empty :
    Ends p repository version blob identity root { disk with cache := fun _ => none }
      (p.asset repository version blob)
      (Certified p repository version blob identity (p.asset repository version blob)) :=
  candidate_miss identity empty_miss

theorem transparent_of_miss (miss : hit p repository version blob root disk = none) :
    Transparent p repository version blob identity root disk := by
  have own := candidate_miss identity miss
  have empty := candidate_empty p repository version blob identity disk root
  refine ⟨fun m => (own.result m).trans (empty.result m).symm, ?_, own.stored⟩
  intro m reached
  have certified := (own.result m).mp reached
  rw [own.work m certified, empty.work m certified]

theorem transparent_of_verified (reads : CosignReadsDigest p)
    (found : hit p repository version blob root disk = some content)
    (verified : Verified p repository version blob identity content) :
    Transparent p repository version blob identity root disk ↔
      p.sha256 content = p.sha256 (p.asset repository version blob) ∧
      content.length = (p.asset repository version blob).length := by
  have own := candidate_hit_verified found verified
  have empty := candidate_empty p repository version blob identity disk root
  constructor
  · intro transparent
    obtain ⟨manifest, certified⟩ := verified
    have fresh := (empty.result manifest).mp
      ((transparent.same manifest).mp ((own.result manifest).mpr certified))
    exact certified.same_bytes fresh
  · intro ⟨digest, size⟩
    have certified_iff : ∀ manifest,
        Certified p repository version blob identity content manifest ↔
        Certified p repository version blob identity (p.asset repository version blob)
          manifest := by
      intro manifest
      constructor
      · exact Certified.transfer reads digest size
      · exact Certified.transfer reads digest.symm size.symm
    refine ⟨?_, ?_, own.stored⟩
    · intro m
      rw [own.result m, empty.result m]
      exact certified_iff m
    · intro m reached
      have certified := (own.result m).mp reached
      rw [own.work m certified, empty.work m ((certified_iff m).mp certified)]
      simp [digest]

theorem transparent_of_rejected {base : String} (based : root = some base)
    (found : hit p repository version blob root disk = some content)
    (rejected : ¬Verified p repository version blob identity content) :
    Transparent p repository version blob identity root disk ↔
      (Verified p repository version blob identity (p.asset repository version blob) →
        Answers p repository content ∧
        p.removable (entryPath base repository version blob)) := by
  have own := candidate_hit_rejected identity based found rejected
  have empty := candidate_empty p repository version blob identity disk root
  constructor
  · intro transparent ⟨manifest, certified⟩
    obtain ⟨answers, removable, _⟩ := (own.result manifest).mp
      ((transparent.same manifest).mpr ((empty.result manifest).mpr certified))
    exact ⟨answers, removable⟩
  · intro replaced
    refine ⟨?_, ?_, own.stored⟩
    · intro m
      rw [own.result m, empty.result m]
      constructor
      · intro ⟨_, _, certified⟩
        exact certified
      · intro certified
        obtain ⟨answers, removable⟩ := replaced ⟨m, certified⟩
        exact ⟨answers, removable, certified⟩
    · intro m reached
      have result := (own.result m).mp reached
      rw [own.work m result, empty.work m result.2.2]

/-- The cache is transparent for just those entries that either pass the full verification
and are the download, or fail it and can be looked up and removed. -/
theorem cache_transparent_iff (reads : CosignReadsDigest p) :
    Transparent p repository version blob identity root disk ↔
      ∀ base content, root = some base →
        disk.readCache p (entryPath base repository version blob) = some content →
        Harmless p repository version blob identity (entryPath base repository version blob)
          content := by
  rcases cached : hit p repository version blob root disk with _ | content
  · constructor
    · intro _ base content based read
      subst based
      have found : hit p repository version blob (some base) disk = some content := read
      rw [cached] at found
      cases found
    · intro _
      exact transparent_of_miss cached
  · obtain ⟨base, based, _⟩ := copyFromCache_hit cached
    have entry : (∀ base content, root = some base →
        disk.readCache p (entryPath base repository version blob) = some content →
        Harmless p repository version blob identity (entryPath base repository version blob)
          content) ↔
        Harmless p repository version blob identity (entryPath base repository version blob)
          content := by
      subst based
      have read : disk.readCache p (entryPath base repository version blob) = some content :=
        cached
      constructor
      · intro every
        exact every base content rfl read
      · intro harmless other bytes same there
        cases same
        rw [read] at there
        cases there
        exact harmless
    rw [entry]
    unfold Harmless
    by_cases verified : Verified p repository version blob identity content
    · rw [transparent_of_verified reads cached verified]
      simp [verified]
    · rw [transparent_of_rejected based cached verified]
      simp [verified]

end transparency

section truncated

def digest3 : String := "ba7816bf8f01cfea414140de5dae2223b00361a396177a9cb410ff61f20015ad"
def digest2 : String := "fb8e20fc2e4c3f248c60c39bd652f3c1347298bb977b8b4d5903b85055620603"
def blob0 : String := "nazoauth-x86_64-unknown-linux-gnu"
def identity0 : String := "https://github.com/nazozero/NazoAuth/.github/workflows/" ++
  "release-security.yml@refs/tags/v0.2.0"

def manifest0 : ReleaseManifest where
  schema := 7
  version := "v0.2.0"
  target := "x86_64-unknown-linux-gnu"
  releaseIdentity := identity0
  operatorProtocol := 3
  artifacts := [("binary", ⟨"nazozero/NazoAuth", blob0, digest3, 3⟩)]
  oci := ⟨"ghcr.io/nazozero/nazoauth", "sha256:" ++ digest3,
    [("linux/amd64", "sha256:" ++ digest3), ("linux/arm64", "sha256:" ++ digest3)]⟩

def attestation0 : Attestation where
  initiator := "nazozero"
  repositoryId := 1
  bundle := .object [("mediaType", .string sigstoreBundleMediaType),
    ("dsseEnvelope", .object [("payload", .string "c3RhdGVtZW50")])]

/-- A release of three bytes, the only ones GitHub has an attestation for. -/
def platform0 : Platform where
  arch := "x86_64"
  os := "linux"
  targetEnv := "gnu"
  protocolVersion := 3
  sha256 content := if content = [97, 98, 99] then digest3 else digest2
  parseResponse _ := .ok [attestation0]
  jsonBytes _ := []
  decodeBase64 _ := .ok []
  parseStatement _ := .ok ⟨inTotoStatementV1, [⟨blob0, [("sha256", digest3)]⟩],
    releasePredicate, .null⟩
  parseManifest _ := .ok manifest0
  commandExists command := command == "cosign"
  cosign _ _ _ content := if content = [97, 98, 99] then .ok () else .error "no matching subject"
  containerCosign _ _ _ _ _ := .error "not used"
  asset _ _ _ := [97, 98, 99]
  attestations _ digest _ :=
    if digest = digest3 then .ok (some "attestations")
    else .error "curl: (22) The requested URL returned error: 404"
  readable _ := true
  removable _ := true
  storable _ := true

def diskOf (content : Bytes) : Disk where
  work _ := none
  cache path :=
    if path = entryPath "/cache" "nazozero/NazoAuth" "v0.2.0" blob0 then some content else none

theorem digest3_lower : isLowerHexOf 64 digest3 = true := by decide

theorem manifest0_oci : manifest0.oci.validate = .ok () := by
  have digest : ociDigest ("sha256:" ++ digest3) = true := by decide
  unfold OciRelease.validate
  rw [check_ok]
  simp [manifest0, digest]

theorem manifest0_valid : manifest0.validate platform0 "v0.2.0" identity0 = .ok () := by
  unfold ReleaseManifest.validate
  simp only [bind_ok, fromOption_ok, check_ok, binaryOnly_ok, exists_unit, manifest0_oci]
  refine ⟨"x86_64-unknown-linux-gnu", by decide, by simp [manifest0], rfl,
    ⟨"nazozero/NazoAuth", blob0, digest3, 3⟩, rfl, by decide, ?_, trivial⟩
  exact ⟨by decide, rfl, digest3_lower⟩

theorem vouched0 : Vouches platform0 "v0.2.0" blob0 identity0 [97, 98, 99] attestation0
    manifest0 where
  envelope := by rfl
  stated := by rfl
  concerns := ⟨rfl, rfl⟩
  signed := by rfl
  declared := by
    unfold requireArtifact
    simp only [bind_ok, context_ok, fromOption_ok, check_ok, exists_unit, manifest0_valid]
    exact ⟨trivial, ⟨"nazozero/NazoAuth", blob0, digest3, 3⟩, by simp [manifest0], rfl, rfl⟩

theorem verified0 :
    Verified platform0 "nazozero/NazoAuth" "v0.2.0" blob0 identity0 [97, 98, 99] := by
  refine ⟨manifest0, "attestations", [attestation0], rfl, rfl, by decide, ?_, ?_⟩
  · intro a member
    rw [List.mem_singleton.mp member]
    exact .inr vouched0
  · exact ⟨attestation0, List.mem_singleton_self _, vouched0⟩

theorem hit0 (content : Bytes) :
    hit platform0 "nazozero/NazoAuth" "v0.2.0" blob0 (some "/cache") (diskOf content)
      = some content := by
  simp [hit, Disk.readCache, diskOf, platform0]

theorem truncated_unanswered : ¬Answers platform0 "nazozero/NazoAuth" [97, 98] := by
  intro ⟨response, answer⟩
  have silent : platform0.attestations "nazozero/NazoAuth" (platform0.sha256 [97, 98])
      releasePredicate = .error "curl: (22) The requested URL returned error: 404" := rfl
  rw [silent] at answer
  cases answer

/-- A truncated entry fails every later verification of a release that a download passes. -/
theorem truncated_entry_blocks :
    (∀ digest, digest ≠ digest3 → platform0.attestations "nazozero/NazoAuth" digest
      releasePredicate = .error "curl: (22) The requested URL returned error: 404") ∧
    ¬Transparent platform0 "nazozero/NazoAuth" "v0.2.0" blob0 identity0 (some "/cache")
      (diskOf [97, 98]) := by
  constructor
  · intro digest other
    exact if_neg other
  · intro transparent
    have rejected : ¬Verified platform0 "nazozero/NazoAuth" "v0.2.0" blob0 identity0
        [97, 98] := by
      intro ⟨_, certified⟩
      exact truncated_unanswered certified.answers
    obtain ⟨answers, _⟩ := (transparent_of_rejected rfl (hit0 [97, 98]) rejected).mp transparent
      verified0
    exact truncated_unanswered answers

theorem cosignReadsDigest0 : CosignReadsDigest platform0 := by
  have known : ∀ x, platform0.sha256 x = digest3 ↔ x = [97, 98, 99] := by
    intro x
    show (if x = [97, 98, 99] then digest3 else digest2) = digest3 ↔ _
    by_cases same : x = [97, 98, 99]
    · simp [same]
    · rw [if_neg same]
      simp [same, digest2, digest3]
  intro x y digest bundle type identity
  refine ⟨?_, fun _ => rfl⟩
  have both : x = [97, 98, 99] ↔ y = [97, 98, 99] := by
    rw [← known x, ← known y, digest]
  show (if x = [97, 98, 99] then _ else _) = if y = [97, 98, 99] then _ else _
  by_cases same : y = [97, 98, 99]
  · rw [if_pos (both.mpr same), if_pos same]
  · rw [if_neg (fun h => same (both.mp h)), if_neg same]

theorem released_entry_transparent :
    Transparent platform0 "nazozero/NazoAuth" "v0.2.0" blob0 identity0 (some "/cache")
      (diskOf [97, 98, 99]) := by
  apply (cache_transparent_iff cosignReadsDigest0).mpr
  intro base content based read
  cases based
  have same : content = [97, 98, 99] := by
    have found : hit platform0 "nazozero/NazoAuth" "v0.2.0" blob0 (some "/cache")
        (diskOf [97, 98, 99]) = some content := read
    rw [hit0] at found
    cases found
    rfl
  subst same
  exact ⟨fun _ => ⟨rfl, rfl⟩, fun rejected => absurd verified0 rejected⟩

end truncated

end NazoAuthCtl.ReleaseCache
