import AmazonSimilarSearch.Attestation.Verify

/-!
# The text of a signature

`sign_attestation` writes a signature in URL-safe base64 without its padding, and
`_decode_signature` reads it back. The last of the 86 characters carries four bits
that no octet holds. The decoder ignores them and does not encode its result
again, so sixteen texts stand for every signature.
-/
namespace AmazonSimilarSearch.Attestation
open Foundation Base64

/-- The output of `private_key.sign`. -/
structure Ed25519Signature where
  bytes : Bytes
  length_bytes : bytes.length = 64

/-- The alphabet of `base64.urlsafe_b64encode`. -/
def urlsafeAlphabet (c : Char) : Char := if c = '+' then '-' else if c = '/' then '_' else c

/-- `base64.urlsafe_b64encode(signature).rstrip(b"=").decode("ascii")` -/
def encodeSignature (signature : Bytes) : String :=
  String.ofList (((b64encode signature).toList.map urlsafeAlphabet).reverse.dropWhile
    (· = '=')).reverse

/-- The last character carries no spare bits. -/
def SpareBitsClear (text : String) : Prop :=
  ∃ c ∈ ['A', 'Q', 'g', 'w'], text.toList.getLast? = some c

instance (text : String) : Decidable (SpareBitsClear text) :=
  inferInstanceAs (Decidable (∃ c ∈ _, _))

/-! ## The two alphabets -/

theorem standardAlphabet_urlsafeAlphabet {c : Char} (h : (sextet? c).isSome) :
    standardAlphabet (urlsafeAlphabet c) = c := by
  have hdash : c ≠ '-' := by
    rintro rfl
    exact absurd h (by decide)
  have hunderscore : c ≠ '_' := by
    rintro rfl
    exact absurd h (by decide)
  unfold urlsafeAlphabet
  split_ifs with hplus hslash
  · rw [hplus]
    rfl
  · rw [hslash]
    rfl
  · rw [standardAlphabet, if_neg hdash, if_neg hunderscore]

theorem urlsafeAlphabet_ne_pad {c : Char} (h : (sextet? c).isSome) : urlsafeAlphabet c ≠ '=' := by
  intro heq
  have hc := standardAlphabet_urlsafeAlphabet h
  rw [heq] at hc
  rw [← hc] at h
  exact absurd h (by decide)

/-- A character that a signature may have. -/
def isSignatureChar (c : Char) : Bool := isAlphanumericAscii c || c == '_' || c == '-'

theorem urlsafeAlphabet_standardAlphabet {c : Char} (h : isSignatureChar c = true) :
    urlsafeAlphabet (standardAlphabet c) = c := by
  have hplus : c ≠ '+' := by
    rintro rfl
    exact absurd h (by decide)
  have hslash : c ≠ '/' := by
    rintro rfl
    exact absurd h (by decide)
  unfold standardAlphabet
  split_ifs with hdash hunderscore
  · rw [hdash]
    rfl
  · rw [hunderscore]
    rfl
  · rw [urlsafeAlphabet, if_neg hplus, if_neg hslash]

/-! ## The encoding -/

theorem dropWhile_append_of_all {α : Type} {p : α → Bool} {xs ys : List α}
    (hxs : ∀ x ∈ xs, p x = true) (hys : ∀ y ∈ ys, p y = false) :
    (xs ++ ys).dropWhile p = ys := by
  induction xs with
  | nil =>
      cases ys with
      | nil => rfl
      | cons y ys => simp [hys y]
  | cons x xs ih =>
      rw [List.cons_append, List.dropWhile_cons, if_pos (hxs x List.mem_cons_self)]
      exact ih fun y hy => hxs y (List.mem_cons_of_mem x hy)

/-- The encoding of a signature is the standard one in the other alphabet, without padding. -/
theorem encodeSignature_spec (signature : Bytes) (hlength : signature.length = 64) :
    ∃ cs, (∀ c ∈ cs, (sextet? c).isSome) ∧ encodeGroups signature = cs ++ ['=', '='] ∧
      (encodeSignature signature).toList = cs.map urlsafeAlphabet := by
  obtain ⟨cs, hcs, heq⟩ := encodeGroups_padding signature
  rw [hlength] at heq
  refine ⟨cs, hcs, heq, ?_⟩
  have hkeep : ∀ c ∈ (cs.map urlsafeAlphabet).reverse, decide (c = '=') = false := by
    intro c hc
    obtain ⟨d, hd, rfl⟩ := List.mem_map.mp (List.mem_reverse.mp hc)
    exact decide_eq_false (urlsafeAlphabet_ne_pad (hcs d hd))
  have hpad : ∀ c ∈ (['=', '='] : List Char), decide (c = '=') = true := by simp
  have hmap : (cs ++ ['=', '=']).map urlsafeAlphabet = cs.map urlsafeAlphabet ++ ['=', '='] := by
    rw [List.map_append]
    rfl
  have hreverse : (cs.map urlsafeAlphabet ++ ['=', '=']).reverse =
      ['=', '='] ++ (cs.map urlsafeAlphabet).reverse := by
    rw [List.reverse_append]
    rfl
  have hencoded : encodeGroups signature = cs ++ ['=', '='] := heq
  rw [encodeSignature, b64encode, String.toList_ofList, String.toList_ofList, hencoded, hmap,
    hreverse, dropWhile_append_of_all hpad hkeep, List.reverse_reverse]

/-- The groups that `_decode_signature` decodes. -/
theorem padded_toList (text : String) : (text ++ "==").toList.map standardAlphabet =
    text.toList.map standardAlphabet ++ ['=', '='] := by
  rw [String.toList_append, List.map_append]
  rfl

theorem decodeSignature_iff_groups {text : String} {signature : Bytes} :
    decodeSignature text = .ok signature ↔
      decodeGroups (text.toList.map standardAlphabet ++ ['=', '=']) = some signature ∧
        signature.length = 64 := by
  rw [decodeSignature_eq_ok_iff, b64decode, String.toList_ofList, padded_toList]

/-- Every signature is read back from its encoding. -/
theorem decodeSignature_encodeSignature (signature : Ed25519Signature) :
    decodeSignature (encodeSignature signature.bytes) = .ok signature.bytes := by
  obtain ⟨cs, hcs, hencoded, htext⟩ := encodeSignature_spec signature.bytes signature.length_bytes
  have hmap : (cs.map urlsafeAlphabet).map standardAlphabet = cs := by
    rw [List.map_map]
    exact List.map_congr_left (fun c hc => standardAlphabet_urlsafeAlphabet (hcs c hc)) |>.trans
      (List.map_id cs)
  rw [decodeSignature_iff_groups, htext, hmap, ← hencoded]
  exact ⟨decodeGroups_encodeGroups signature.bytes, signature.length_bytes⟩

theorem isSignatureChar_of_mem {text : String} (h : isSignature text = true) {c : Char}
    (hc : c ∈ text.toList) : isSignatureChar c = true := by
  simp only [isSignature, Bool.and_eq_true, List.all_eq_true] at h
  exact h.2 c hc

/-- An admitted text comes back from the signature exactly when its groups have no spare bits. -/
theorem encodeSignature_eq_iff {text : String} {signature : Bytes} (htext : isSignature text = true)
    (h : decodeSignature text = .ok signature) :
    encodeSignature signature = text ↔
      spareBits (text.toList.map standardAlphabet ++ ['=', '=']) = 0 := by
  obtain ⟨hgroups, hlength⟩ := decodeSignature_iff_groups.mp h
  obtain ⟨cs, hcs, hencoded, hwritten⟩ := encodeSignature_spec signature hlength
  rw [← encodeGroups_of_decodeGroups hgroups, hencoded, List.append_cancel_right_eq,
    ← String.toList_inj, hwritten]
  constructor
  · intro heq
    rw [← heq, List.map_map]
    exact ((List.map_congr_left fun c hc => standardAlphabet_urlsafeAlphabet (hcs c hc)).trans
      (List.map_id cs)).symm
  · intro heq
    rw [heq, List.map_map]
    exact (List.map_congr_left fun c hc =>
      urlsafeAlphabet_standardAlphabet (isSignatureChar_of_mem htext hc)).trans
      (List.map_id text.toList)

/-! ## The spare bits -/

/-- Before two padding characters the spare bits are those of the last character. -/
theorem spareBits_append_pad (n : ℕ) : ∀ cs : List Char, cs.length = 4 * n + 2 →
    ∃ c, cs.getLast? = some c ∧ spareBits (cs ++ ['=', '=']) = (sextet? c).getD 0 % 16 := by
  induction n with
  | zero =>
      intro cs hcs
      obtain ⟨a, b, rfl⟩ := List.length_eq_two.mp hcs
      exact ⟨b, rfl, rfl⟩
  | succ n ih =>
      intro cs hcs
      match cs, hcs with
      | a :: b :: c :: d :: rest, hcs =>
          have hrest : rest.length = 4 * n + 2 := by
            simp only [List.length_cons] at hcs
            omega
          obtain ⟨last, hlast, hbits⟩ := ih rest hrest
          have hne : rest ≠ [] := by
            rintro rfl
            cases hlast
          refine ⟨last, ?_, ?_⟩
          · rw [← hlast]
            simp [List.getLast?_cons, hlast]
          · rw [← hbits]
            simp [spareBits, hne]

theorem sextet?_standardAlphabet {c : Char} (h : isSignatureChar c = true) :
    (sextet? (standardAlphabet c)).isSome := by
  simp only [isSignatureChar, isAlphanumericAscii, isUpperAscii, isLowerAscii, isDigitAscii,
    Bool.or_eq_true, Bool.and_eq_true, decide_eq_true_eq, beq_iff_eq] at h
  unfold standardAlphabet
  split_ifs with hdash hunderscore
  · rfl
  · rfl
  · unfold sextet?
    split_ifs with h₁ h₂ h₃
    · rfl
    · rfl
    · rfl
    · rfl
    · rfl
    · simp only [hdash, hunderscore, or_false] at h
      tauto

/-- The characters whose last four bits are zero. -/
theorem clear_iff {c : Char} (h : isSignatureChar c = true) :
    (sextet? (standardAlphabet c)).getD 0 % 16 = 0 ↔ c ∈ ['A', 'Q', 'g', 'w'] := by
  obtain ⟨v, hv⟩ := Option.isSome_iff_exists.mp (sextet?_standardAlphabet h)
  have hc : urlsafeAlphabet (sextetChar v) = c := by
    rw [sextetChar_of_sextet? hv, urlsafeAlphabet_standardAlphabet h]
  have hclear : ∀ v < 64, v % 16 = 0 ↔ urlsafeAlphabet (sextetChar v) ∈ ['A', 'Q', 'g', 'w'] := by
    decide
  rw [hv, Option.getD_some, hclear v (sextet?_lt hv), hc]

/-- The groups of an admitted text have no spare bits exactly when its last character has none. -/
theorem spareBits_eq_zero_iff {text : String} (h : isSignature text = true) :
    spareBits (text.toList.map standardAlphabet ++ ['=', '=']) = 0 ↔ SpareBitsClear text := by
  have hlength : (text.toList.map standardAlphabet).length = 4 * 21 + 2 := by
    simp only [isSignature, Bool.and_eq_true, beq_iff_eq] at h
    rw [List.length_map, h.1]
  obtain ⟨last, hlast, hbits⟩ := spareBits_append_pad 21 _ hlength
  rw [List.getLast?_map, Option.map_eq_some_iff] at hlast
  obtain ⟨c, hc, rfl⟩ := hlast
  have hchar : isSignatureChar c = true := isSignatureChar_of_mem h (List.mem_of_getLast? hc)
  rw [hbits, clear_iff hchar, SpareBitsClear]
  constructor
  · exact fun hmem => ⟨c, hmem, hc⟩
  · rintro ⟨d, hmem, hd⟩
    cases hc.symm.trans hd
    exact hmem

/-! ## What is accepted -/

theorem exists_group {n : ℕ} {cs : List Char} (h : cs.length = 4 * (n + 1) + 2) :
    ∃ a b c d rest, cs = a :: b :: c :: d :: rest := by
  rcases cs with _ | ⟨a, _ | ⟨b, _ | ⟨c, _ | ⟨d, rest⟩⟩⟩⟩
  case cons.cons.cons.cons => exact ⟨a, b, c, d, rest, rfl⟩
  all_goals
    simp only [List.length_cons, List.length_nil] at h
    omega

theorem decodeGroups_append_pad (n : ℕ) : ∀ cs : List Char, cs.length = 4 * n + 2 →
    (∀ c ∈ cs, (sextet? c).isSome) →
    ∃ raw, decodeGroups (cs ++ ['=', '=']) = some raw ∧ raw.length = 3 * n + 1 := by
  induction n with
  | zero =>
      intro cs hcs hall
      obtain ⟨a, b, rfl⟩ := List.length_eq_two.mp hcs
      obtain ⟨x, hx⟩ := Option.isSome_iff_exists.mp (hall a (by simp))
      obtain ⟨y, hy⟩ := Option.isSome_iff_exists.mp (hall b (by simp))
      exact ⟨(octets x y 0 0).take 1, by simp [decodeGroups, hx, hy], rfl⟩
  | succ n ih =>
      intro cs hcs hall
      obtain ⟨a, b, c, d, rest, rfl⟩ := exists_group hcs
      simp only [List.forall_mem_cons] at hall
      obtain ⟨ha, hb, hc, hd, hrest⟩ := hall
      have hlength : rest.length = 4 * n + 2 := by
        simp only [List.length_cons] at hcs
        omega
      obtain ⟨raw, hraw, hrawLength⟩ := ih rest hlength hrest
      obtain ⟨x, hx⟩ := Option.isSome_iff_exists.mp ha
      obtain ⟨y, hy⟩ := Option.isSome_iff_exists.mp hb
      obtain ⟨z, hz⟩ := Option.isSome_iff_exists.mp hc
      obtain ⟨w, hw⟩ := Option.isSome_iff_exists.mp hd
      refine ⟨octets x y z w ++ raw, ?_, ?_⟩
      · simp [decodeGroups, hx, hy, hz, hw, hraw]
      · rw [List.length_append, hrawLength, octets]
        simp only [List.length_cons, List.length_nil]
        omega

/-- Every text that `SignedAttestation` admits is decoded. -/
theorem decodeSignature_accepts {text : String} (h : isSignature text = true) :
    ∃ signature, decodeSignature text = .ok signature := by
  have hlength : (text.toList.map standardAlphabet).length = 4 * 21 + 2 := by
    simp only [isSignature, Bool.and_eq_true, beq_iff_eq] at h
    rw [List.length_map, h.1]
  have hall : ∀ c ∈ text.toList.map standardAlphabet, (sextet? c).isSome := by
    intro c hc
    obtain ⟨d, hd, rfl⟩ := List.mem_map.mp hc
    exact sextet?_standardAlphabet (isSignatureChar_of_mem h hd)
  obtain ⟨raw, hraw, hrawLength⟩ := decodeGroups_append_pad 21 _ hlength hall
  exact ⟨raw, decodeSignature_iff_groups.mpr ⟨hraw, hrawLength⟩⟩

/-! ## The codec -/

theorem isSignatureChar_urlsafeAlphabet {c : Char} (h : (sextet? c).isSome) :
    isSignatureChar (urlsafeAlphabet c) = true := by
  obtain ⟨v, hv⟩ := Option.isSome_iff_exists.mp h
  have hall : ∀ v < 64, isSignatureChar (urlsafeAlphabet (sextetChar v)) = true := by decide
  rw [← sextetChar_of_sextet? hv]
  exact hall v (sextet?_lt hv)

/-- The encoding of a signature is a field that `SignedAttestation` admits. -/
theorem isSignature_encodeSignature (signature : Ed25519Signature) :
    isSignature (encodeSignature signature.bytes) = true := by
  obtain ⟨cs, hcs, hencoded, htext⟩ := encodeSignature_spec signature.bytes signature.length_bytes
  have hlength : cs.length = 86 := by
    have h := encodeGroups_length signature.bytes
    rw [hencoded, List.length_append, signature.length_bytes] at h
    simpa using h
  rw [isSignature, htext, Bool.and_eq_true, beq_iff_eq, List.length_map, List.all_map,
    List.all_eq_true]
  exact ⟨hlength, fun c hc => isSignatureChar_urlsafeAlphabet (hcs c hc)⟩

/-- `signature` of the envelope that `sign_attestation` returns. -/
def signatureText (signature : Ed25519Signature) : Matching isSignature :=
  ⟨encodeSignature signature.bytes, isSignature_encodeSignature signature⟩

/-- A text that is decoded, and comes back from what it decodes to. -/
def ComesBack (text : String) : Prop :=
  ∃ signature, decodeSignature text = .ok signature ∧ encodeSignature signature = text

theorem comesBack_iff {text : String} (h : isSignature text = true) :
    ComesBack text ↔ SpareBitsClear text := by
  rw [← spareBits_eq_zero_iff h]
  constructor
  · rintro ⟨signature, hdecoded, hencoded⟩
    exact (encodeSignature_eq_iff h hdecoded).mp hencoded
  · intro hclear
    obtain ⟨signature, hdecoded⟩ := decodeSignature_accepts h
    exact ⟨signature, hdecoded, (encodeSignature_eq_iff h hdecoded).mpr hclear⟩

/-- Two texts that come back and stand for one signature are one text. -/
theorem eq_of_comesBack {a b : String} (ha : ComesBack a) (hb : ComesBack b)
    (h : decodeSignature a = decodeSignature b) : a = b := by
  obtain ⟨signature, hdecoded, rfl⟩ := ha
  obtain ⟨other, hother, rfl⟩ := hb
  rw [hdecoded, hother] at h
  rw [Except.ok.inj h]

/-- Two envelopes of one statement under one key, whose texts stand for one signature. -/
structure SameSigned (envelope other : SignedAttestation) : Prop where
  keyId : envelope.keyId = other.keyId
  statement : envelope.statement = other.statement
  signature : decodeSignature envelope.signature.text = decodeSignature other.signature.text

/-- Every signature is read back from its encoding; an admitted text comes back from what it
decodes to exactly when its last character carries no spare bits; and among such texts one
signature has one envelope with one digest. -/
theorem signatureCodec_bijective_iff (sha256 : HashFunction) (signature : Ed25519Signature)
    (text : Matching isSignature) :
    decodeSignature (signatureText signature).text = .ok signature.bytes ∧
      (ComesBack text.text ↔ SpareBitsClear text.text) ∧
      ∀ envelope other : SignedAttestation, SameSigned envelope other →
        SpareBitsClear envelope.signature.text → SpareBitsClear other.signature.text →
          envelope = other ∧ canonicalSha256 sha256 envelope = canonicalSha256 sha256 other := by
  refine ⟨decodeSignature_encodeSignature signature, comesBack_iff text.matches_text, ?_⟩
  intro envelope other hsame henvelope hother
  have htext : envelope.signature.text = other.signature.text :=
    eq_of_comesBack ((comesBack_iff envelope.signature.matches_text).mpr henvelope)
      ((comesBack_iff other.signature.matches_text).mpr hother) hsame.signature
  have heq : envelope = other := by
    have hsignature : envelope.signature = other.signature := Matching.ext htext
    cases envelope
    cases other
    simp only [SignedAttestation.mk.injEq]
    exact ⟨hsame.keyId, hsame.statement, hsignature⟩
  exact ⟨heq, by rw [heq]⟩

/-- A text with spare bits in its last character. -/
def spareText : String := String.ofList (List.replicate 85 'A' ++ ['B'])

/-- The text is admitted and accepted, and another text comes back, which stands for the same
signature. -/
theorem spareText_malleable : isSignature spareText = true ∧
    decodeSignature spareText = .ok (List.replicate 64 0) ∧
      encodeSignature (List.replicate 64 0) ≠ spareText ∧
        decodeSignature (encodeSignature (List.replicate 64 0)) = decodeSignature spareText := by
  have hdecoded : decodeSignature spareText = .ok (List.replicate 64 0) := by decide +kernel
  have hencoded : decodeSignature (encodeSignature (List.replicate 64 0)) =
      .ok (List.replicate 64 0) :=
    decodeSignature_encodeSignature ⟨List.replicate 64 0, List.length_replicate⟩
  exact ⟨by decide +kernel, hdecoded, by decide +kernel, hencoded.trans hdecoded.symm⟩

end AmazonSimilarSearch.Attestation
