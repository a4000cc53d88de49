import AmazonSimilarSearch.Attestation.Statement
import AmazonSimilarSearch.Foundation.Runs
import Mathlib.Data.List.Dedup
import Mathlib.Data.List.Perm.Subperm

/-!
# Checking a set of attestations

What `verify_attestation_set` checks before it touches the nonce ledger. The
checks run role by role over the envelopes in the order of their roles, and a
set that has one role twice is rejected before that order matters.
-/
namespace AmazonSimilarSearch.Attestation
open Foundation

/-- What a verification raises. -/
inductive VerifyError where
  | attestationError (message : String)
  | valueError (message : String)
  | typeError (message : String)
  | keyError (key : String)
  deriving DecidableEq, Repr

/-- A key of the registry: an Ed25519 key, or an object that is none. -/
inductive TrustedKey (scheme : Ed25519) where
  | ed25519 (key : scheme.PublicKey)
  | other

/-- The argument `now`. -/
inductive Now where
  | unset
  | timestamp (seconds : ℤ)
  /-- a `bool`, or no integer at all -/
  | notInteger
  deriving DecidableEq, Repr

/-- A mapping by role, with its keys. -/
structure Expectations where
  items : List (String × AttestationExpectation)
  nodup : (items.map Prod.fst).Nodup

namespace Expectations

def roles (expectations : Expectations) : List String := expectations.items.map Prod.fst

def get? (expectations : Expectations) (role : String) : Option AttestationExpectation :=
  expectations.items.lookup role

end Expectations

/-- The arguments of `verify_attestation_set`, the ledger apart. -/
structure VerifyArguments (scheme : Ed25519) where
  envelopes : List SignedAttestation
  trustedPublicKeys : String → Option (TrustedKey scheme)
  expectations : Expectations
  now : Now
  maxAgeSeconds : ℤ
  maxFutureSkewSeconds : ℤ

def SignedAttestation.role (envelope : SignedAttestation) : String := envelope.statement.role.text

def SignedAttestation.nonce (envelope : SignedAttestation) : String := envelope.statement.nonce.text

def verificationTime (clock : ℤ) : Now → Except VerifyError ℤ
  | .unset => .ok clock
  | .timestamp seconds => .ok seconds
  | .notInteger =>
      .error (.typeError "attestation verification time must be an integer Unix timestamp")

/-- `sorted(role for role, count in Counter(roles).items() if count != 1)` -/
def repeatedRoles (roles : List String) : List String :=
  sortedText (roles.dedup.filter fun role => roles.count role ≠ 1)

def roleDetail (missing unexpected : List String) : List String :=
  (if missing = [] then [] else ["missing " ++ ", ".intercalate missing]) ++
    (if unexpected = [] then [] else ["unexpected " ++ ", ".intercalate unexpected])

def verifyRoles (roles expected : List String) : Except VerifyError Unit := do
  let repeated := repeatedRoles roles
  ensure (repeated = []) (.attestationError
    ("attestation roles must appear exactly once: " ++ ", ".intercalate repeated))
  let missing := sortedText (expected.filter (· ∉ roles))
  let unexpected := sortedText (roles.filter (· ∉ expected))
  ensure (missing = [] ∧ unexpected = []) (.attestationError
    ("attestation roles do not match expectations: " ++
      "; ".intercalate (roleDetail missing unexpected)))

/-- The sessions of the two review roles, as a set. -/
def reviewSessions (envelopes : List SignedAttestation) : List (Matching isSessionId) :=
  ((envelopes.filter fun envelope => envelope.role ∈ ["reviewer", "adversary"]).map
    fun envelope => envelope.statement.sessionId).dedup

def verifySessions (envelopes : List SignedAttestation) : Except VerifyError Unit :=
  ensure (¬ ("reviewer" ∈ envelopes.map SignedAttestation.role ∧
      "adversary" ∈ envelopes.map SignedAttestation.role ∧ (reviewSessions envelopes).length ≠ 2))
    (.attestationError "reviewer and adversary attestations require distinct sessions")

/-- The alphabet of `base64.b64decode(…, altchars=b"-_")`. -/
def standardAlphabet (c : Char) : Char := if c = '-' then '+' else if c = '_' then '/' else c

def decodeSignature (encoded : String) : Except VerifyError Bytes := do
  let decoded ← required (.attestationError "attestation signature encoding is invalid")
    (b64decode (String.ofList ((encoded ++ "==").toList.map standardAlphabet)))
  ensure (decoded.length = 64) (.attestationError "attestation signature length is invalid")
  pure decoded

section
variable (sha256 : HashFunction) (scheme : Ed25519)

/-- `_verify_one_signature` -/
def verifyOneSignature (trusted : String → Option (TrustedKey scheme))
    (envelope : SignedAttestation) : Except VerifyError Unit := do
  let registered ← required (.attestationError "attestation does not reference a trusted key")
    (trusted envelope.keyId.text)
  match registered with
  | .other =>
      .error (.attestationError "trusted key registry contains a non-Ed25519 key")
  | .ed25519 key => do
      ensure (publicKeyId sha256 scheme key = envelope.keyId)
        (.attestationError "trusted key id does not match its Ed25519 public key")
      let signature ← decodeSignature envelope.signature.text
      ensure (scheme.verify key signature (signedBytes envelope.statement) = true)
        (.attestationError "attestation signature verification failed")

/-- `_verify_binding`: the first field that differs is named. -/
def verifyBinding (statement : AttestationStatement) (expected : AttestationExpectation) :
    Except VerifyError Unit :=
  forM (statement.modelDump.zip expected.modelDump) fun field =>
    ensure (field.1 = field.2) (.attestationError ("attestation binding mismatch: " ++ field.1.1))

/-- One round of the loop over the ordered envelopes. -/
def verifyEnvelope (arguments : VerifyArguments scheme) (time : ℤ)
    (envelope : SignedAttestation) : Except VerifyError Unit := do
  verifyOneSignature sha256 scheme arguments.trustedPublicKeys envelope
  let expected ← required (.keyError envelope.role) (arguments.expectations.get? envelope.role)
  verifyBinding envelope.statement expected
  ensure (envelope.statement.issuedAt ≤ time + arguments.maxFutureSkewSeconds)
    (.attestationError ("attestation issued in the future: " ++ envelope.role))
  ensure (time - envelope.statement.issuedAt ≤ arguments.maxAgeSeconds)
    (.attestationError ("attestation expired: " ++ envelope.role))

/-- `verify_attestation_set` up to its call of `reserve_many`: the envelopes in the order of
their roles. -/
def verifyEnvelopes (arguments : VerifyArguments scheme) (clock : ℤ) :
    Except VerifyError (List SignedAttestation) := do
  ensure (arguments.envelopes ≠ []) (.attestationError "at least one attestation is required")
  ensure (0 ≤ arguments.maxAgeSeconds ∧ 0 ≤ arguments.maxFutureSkewSeconds)
    (.valueError "attestation time bounds must be non-negative")
  let time ← verificationTime clock arguments.now
  verifyRoles (arguments.envelopes.map SignedAttestation.role) arguments.expectations.roles
  verifySessions arguments.envelopes
  let ordered := sortedBy SignedAttestation.role arguments.envelopes
  forM ordered (verifyEnvelope sha256 scheme arguments time)
  ensure ((ordered.map SignedAttestation.nonce).Nodup)
    (.attestationError "attestation nonce is duplicated within the bundle")
  pure ordered

end

/-- `VerifiedAttestationSet` -/
structure VerifiedAttestationSet where
  statements : List AttestationStatement
  roles : List String
  envelopeSha256s : List Sha256
  deriving DecidableEq

def verifiedSet (sha256 : HashFunction) (ordered : List SignedAttestation) :
    VerifiedAttestationSet where
  statements := ordered.map SignedAttestation.statement
  roles := ordered.map SignedAttestation.role
  envelopeSha256s := ordered.map (canonicalSha256 sha256)

/-! ## What a verified set satisfies -/

section
variable {H : HashFunction} {scheme : Ed25519}

/-- The key that the envelope names is trusted and verifies the statement. -/
def SignatureVerifies (H : HashFunction) (scheme : Ed25519)
    (trusted : String → Option (TrustedKey scheme)) (envelope : SignedAttestation) : Prop :=
  ∃ key signature, trusted envelope.keyId.text = some (.ed25519 key) ∧
    publicKeyId H scheme key = envelope.keyId ∧
    b64decode (String.ofList ((envelope.signature.text ++ "==").toList.map standardAlphabet)) =
      some signature ∧ signature.length = 64 ∧
    scheme.verify key signature (signedBytes envelope.statement) = true

/-- An envelope that the loop lets through at the given time. -/
structure EnvelopeVerifies (H : HashFunction) (scheme : Ed25519)
    (arguments : VerifyArguments scheme) (time : ℤ) (envelope : SignedAttestation) : Prop where
  signature : SignatureVerifies H scheme arguments.trustedPublicKeys envelope
  binding : arguments.expectations.get? envelope.role =
    some envelope.statement.toAttestationBinding
  notFuture : envelope.statement.issuedAt ≤ time + arguments.maxFutureSkewSeconds
  notExpired : time - arguments.maxAgeSeconds ≤ envelope.statement.issuedAt

/-- A set of envelopes that goes on to reserve its nonces. -/
structure SetVerifies (H : HashFunction) (scheme : Ed25519) (arguments : VerifyArguments scheme)
    (time : ℤ) (ordered : List SignedAttestation) : Prop where
  envelopes : ordered.Perm arguments.envelopes
  rolesOnce : (ordered.map SignedAttestation.role).Nodup
  rolesExact : ∀ role, role ∈ ordered.map SignedAttestation.role ↔
    role ∈ arguments.expectations.roles
  verifies : ∀ envelope ∈ ordered, EnvelopeVerifies H scheme arguments time envelope
  noncesOnce : (ordered.map SignedAttestation.nonce).Nodup
  sessionsDiffer : ∀ reviewer ∈ ordered, ∀ adversary ∈ ordered, reviewer.role = "reviewer" →
    adversary.role = "adversary" → reviewer.statement.sessionId ≠ adversary.statement.sessionId

theorem repeatedRoles_eq_nil_iff {roles : List String} :
    repeatedRoles roles = [] ↔ roles.Nodup := by
  rw [repeatedRoles, sortedText_eq_nil_iff, List.filter_eq_nil_iff, List.nodup_iff_count_eq_one]
  simp only [List.mem_dedup, ne_eq, decide_not, Bool.not_eq_true', decide_eq_false_iff_not,
    not_not]

theorem verifyRoles_eq_ok_iff {roles expected : List String} {u : Unit} :
    verifyRoles roles expected = .ok u ↔
      roles.Nodup ∧ ∀ role, role ∈ roles ↔ role ∈ expected := by
  simp only [verifyRoles, bind_eq_ok_iff, ensure_eq_ok_iff, exists_const, repeatedRoles_eq_nil_iff,
    sortedText_eq_nil_iff, List.filter_eq_nil_iff, decide_eq_true_eq, not_not]
  constructor
  · rintro ⟨hnodup, hmissing, hunexpected⟩
    exact ⟨hnodup, fun role => ⟨hunexpected role, hmissing role⟩⟩
  · rintro ⟨hnodup, hsame⟩
    exact ⟨hnodup, fun role => (hsame role).mpr, fun role => (hsame role).mp⟩

theorem decodeSignature_eq_ok_iff {encoded : String} {signature : Bytes} :
    decodeSignature encoded = .ok signature ↔
      b64decode (String.ofList ((encoded ++ "==").toList.map standardAlphabet)) = some signature ∧
        signature.length = 64 := by
  simp only [decodeSignature, bind_eq_ok_iff, ensure_eq_ok_iff, exists_const,
    required_eq_ok_iff, pure_eq_ok_iff]
  constructor
  · rintro ⟨decoded, hdecoded, hlength, rfl⟩
    exact ⟨hdecoded, hlength⟩
  · rintro ⟨hdecoded, hlength⟩
    exact ⟨signature, hdecoded, hlength, rfl⟩

theorem verifyOneSignature_eq_ok_iff {trusted : String → Option (TrustedKey scheme)}
    {envelope : SignedAttestation} {u : Unit} :
    verifyOneSignature H scheme trusted envelope = .ok u ↔
      SignatureVerifies H scheme trusted envelope := by
  simp only [verifyOneSignature, bind_eq_ok_iff, required_eq_ok_iff, SignatureVerifies]
  constructor
  · rintro ⟨registered, hregistered, h⟩
    cases registered with
    | other => simp at h
    | ed25519 key =>
        simp only [bind_eq_ok_iff, ensure_eq_ok_iff, exists_const, decodeSignature_eq_ok_iff] at h
        obtain ⟨hid, signature, ⟨hsignature, hlength⟩, hverify⟩ := h
        exact ⟨key, signature, hregistered, hid, hsignature, hlength, hverify⟩
  · rintro ⟨key, signature, hregistered, hid, hsignature, hlength, hverify⟩
    refine ⟨.ed25519 key, hregistered, ?_⟩
    simp only [bind_eq_ok_iff, ensure_eq_ok_iff, exists_const, decodeSignature_eq_ok_iff]
    exact ⟨hid, signature, ⟨hsignature, hlength⟩, hverify⟩

theorem forall_mem_zip_iff {α : Type*} {xs ys : List α} (hlength : xs.length = ys.length) :
    (∀ pair ∈ xs.zip ys, pair.1 = pair.2) ↔ xs = ys := by
  induction xs generalizing ys with
  | nil =>
      have hnil : ys = [] := List.length_eq_zero_iff.mp hlength.symm
      simp [hnil]
  | cons x xs ih =>
      obtain ⟨y, ys, rfl⟩ := List.exists_cons_of_length_eq_add_one hlength.symm
      simp only [List.zip_cons_cons, List.forall_mem_cons, List.cons.injEq]
      rw [ih (by simpa using hlength)]

theorem verifyBinding_eq_ok_iff {statement : AttestationStatement}
    {expected : AttestationExpectation} {u : Unit} :
    verifyBinding statement expected = .ok u ↔ statement.toAttestationBinding = expected := by
  have hlength : statement.modelDump.length = expected.modelDump.length := rfl
  rw [verifyBinding, forM_eq_ok_iff]
  simp only [ensure_eq_ok_iff]
  rw [forall_mem_zip_iff hlength]
  exact AttestationBinding.modelDump_injective.eq_iff

theorem verifyEnvelope_eq_ok_iff {arguments : VerifyArguments scheme} {time : ℤ}
    {envelope : SignedAttestation} {u : Unit} :
    verifyEnvelope H scheme arguments time envelope = .ok u ↔
      EnvelopeVerifies H scheme arguments time envelope := by
  simp only [verifyEnvelope, bind_eq_ok_iff, ensure_eq_ok_iff, exists_const, required_eq_ok_iff,
    verifyOneSignature_eq_ok_iff, verifyBinding_eq_ok_iff]
  constructor
  · rintro ⟨hsignature, expected, hexpected, rfl, hfuture, hexpired⟩
    exact ⟨hsignature, hexpected, hfuture, by omega⟩
  · rintro ⟨hsignature, hbinding, hfuture, hexpired⟩
    exact ⟨hsignature, _, hbinding, rfl, hfuture, by omega⟩

/-- When both review roles are there once, two sessions in the set are two different ones. -/
theorem sessions_differ {envelopes : List SignedAttestation}
    (hroles : (envelopes.map SignedAttestation.role).Nodup)
    (hsessions : (reviewSessions envelopes).length = 2) {reviewer adversary : SignedAttestation}
    (hreviewer : reviewer ∈ envelopes) (hadversary : adversary ∈ envelopes)
    (hr : reviewer.role = "reviewer") (ha : adversary.role = "adversary") :
    reviewer.statement.sessionId ≠ adversary.statement.sessionId := by
  intro hsame
  have hinj := List.inj_on_of_nodup_map hroles
  have hsubset : reviewSessions envelopes ⊆ [reviewer.statement.sessionId] := by
    intro session hsession
    simp only [reviewSessions, List.mem_dedup, List.mem_map, List.mem_filter, List.mem_cons,
      List.not_mem_nil, or_false, decide_eq_true_eq] at hsession
    obtain ⟨envelope, ⟨henvelope, hrole | hrole⟩, rfl⟩ := hsession
    · rw [hinj henvelope hreviewer (hrole.trans hr.symm)]
      exact List.mem_singleton_self _
    · rw [hinj henvelope hadversary (hrole.trans ha.symm), hsame]
      exact List.mem_singleton_self _
  have hnodup : (reviewSessions envelopes).Nodup := List.nodup_dedup _
  have hlength := (List.subperm_of_subset hnodup hsubset).length_le
  simp only [List.length_singleton] at hlength
  omega

/-- What goes on to the ledger at the time that was read. -/
theorem verifyEnvelopes_ok {arguments : VerifyArguments scheme} {clock : ℤ}
    {ordered : List SignedAttestation}
    (h : verifyEnvelopes H scheme arguments clock = .ok ordered) :
    ∃ time, verificationTime clock arguments.now = .ok time ∧
      SetVerifies H scheme arguments time ordered := by
  simp only [verifyEnvelopes, bind_eq_ok_iff, ensure_eq_ok_iff, exists_const, pure_eq_ok_iff,
    verifyRoles_eq_ok_iff, verifySessions, forM_eq_ok_iff, verifyEnvelope_eq_ok_iff] at h
  obtain ⟨-, -, time, htime, ⟨hnodup, hexact⟩, hsessions, hverifies, hnonces, rfl⟩ := h
  have hperm := sortedBy_perm SignedAttestation.role arguments.envelopes
  have hroles := hperm.map SignedAttestation.role
  have hnodup' := hroles.nodup_iff.mpr hnodup
  refine ⟨time, htime, hperm, hnodup', ?_, hverifies, hnonces, ?_⟩
  · intro role
    rw [hroles.mem_iff]
    exact hexact role
  · intro reviewer hreviewer adversary hadversary hr ha
    have hreviewer' := hperm.mem_iff.mp hreviewer
    have hadversary' := hperm.mem_iff.mp hadversary
    have htwo : (reviewSessions arguments.envelopes).length = 2 := by
      by_contra hne
      apply hsessions
      exact ⟨List.mem_map.mpr ⟨reviewer, hreviewer', hr⟩,
        List.mem_map.mpr ⟨adversary, hadversary', ha⟩, hne⟩
    exact sessions_differ hnodup htwo hreviewer' hadversary' hr ha

/-! ## The order of the envelopes -/

/-- The same call, with its envelopes in another order. -/
structure VerifyArguments.SameUpToOrder (a b : VerifyArguments scheme) : Prop where
  envelopes : a.envelopes.Perm b.envelopes
  rest : { a with envelopes := b.envelopes } = b

theorem verifyRoles_eq_of_perm {roles roles' expected : List String} (h : roles.Perm roles') :
    verifyRoles roles expected = verifyRoles roles' expected := by
  have hrepeated : repeatedRoles roles = repeatedRoles roles' := by
    have hcount : ∀ role, roles.count role = roles'.count role := fun role => h.count_eq role
    simp only [repeatedRoles, hcount]
    exact sortedText_eq_of_perm (h.dedup.filter _)
  have hmissing : expected.filter (· ∉ roles) = expected.filter (· ∉ roles') := by
    simp only [h.mem_iff]
  have hunexpected := sortedText_eq_of_perm (h.filter (· ∉ expected))
  simp only [verifyRoles, hrepeated, hmissing, hunexpected]

theorem verifySessions_eq_of_perm {envelopes envelopes' : List SignedAttestation}
    (h : envelopes.Perm envelopes') : verifySessions envelopes = verifySessions envelopes' := by
  have hlength : (reviewSessions envelopes).length = (reviewSessions envelopes').length :=
    ((h.filter _).map _).dedup.length_eq
  simp only [verifySessions, (h.map SignedAttestation.role).mem_iff, hlength]

theorem sortedByRole_eq_of_perm {envelopes envelopes' : List SignedAttestation}
    (h : envelopes.Perm envelopes') (hnodup : (envelopes.map SignedAttestation.role).Nodup) :
    sortedBy SignedAttestation.role envelopes = sortedBy SignedAttestation.role envelopes' :=
  sortedBy_eq_of_perm h fun _ ha _ hb hrole => List.inj_on_of_nodup_map hnodup ha hb hrole

/-- A set that has a role twice is rejected, whatever would follow. -/
theorem verifyRoles_bind_congr {α : Type} {roles expected : List String}
    {f g : Unit → Except VerifyError α} (h : roles.Nodup → f () = g ()) :
    (verifyRoles roles expected >>= f) = (verifyRoles roles expected >>= g) := by
  cases hroles : verifyRoles roles expected with
  | error error => rfl
  | ok u => exact h (verifyRoles_eq_ok_iff.mp hroles).1

/-- Which envelopes there are decides what the checks report, not the order they come in. -/
theorem verifyEnvelopes_eq_of_sameUpToOrder {a b : VerifyArguments scheme}
    (h : a.SameUpToOrder b) (clock : ℤ) :
    verifyEnvelopes H scheme a clock = verifyEnvelopes H scheme b clock := by
  have hrest := h.rest
  have hperm := h.envelopes
  generalize b.envelopes = envelopes at hrest hperm
  subst hrest
  have hempty : a.envelopes = [] ↔ envelopes = [] :=
    ⟨fun hnil => (hnil ▸ hperm).symm.eq_nil, fun hnil => (hnil ▸ hperm).eq_nil⟩
  have hrounds : ∀ time, verifyEnvelope H scheme { a with envelopes } time =
    verifyEnvelope H scheme a time := fun _ => rfl
  simp only [verifyEnvelopes, hrounds, hempty, ne_eq, ← verifySessions_eq_of_perm hperm,
    ← verifyRoles_eq_of_perm (hperm.map SignedAttestation.role)]
  congr! 6
  apply verifyRoles_bind_congr
  intro hnodup
  rw [sortedByRole_eq_of_perm hperm hnodup]

end
end AmazonSimilarSearch.Attestation
