import AmazonSimilarSearch.BrokerLedger.Evidence
import AmazonSimilarSearch.Foundation.JsonOrdered

/-!
# Evidence is rebuilt from its records

What the builder accepts are typed rows under the limits; the records of these
rows are the rows again. So the validator accepts whatever the builder made under
the same limits, and evidence that it accepts was made of accountable rows.
-/
namespace AmazonSimilarSearch.BrokerLedger
open Foundation

/-- What the builder asks of one row. -/
structure Row.Checked (packetSha256 : String) (row : Row) : Prop where
  packetSha256 : row.packetSha256 = packetSha256
  role : row.role ∈ roles
  attempt : 1 ≤ row.attempt ∧ row.attempt ≤ 2
  reservedTokens : 1 ≤ row.reservedTokens ∧ row.reservedTokens ≤ contextWindowTokens
  reservedCostMicrousd : 1 ≤ row.reservedCostMicrousd ∧
    row.reservedCostMicrousd ≤ absolutePacketCostLimitMicrousd
  reservationUnixNs : 0 < row.reservationUnixNs

/-- What the builder asks of all rows of a packet. -/
structure Accountable (sha256 : HashFunction) (binding : Binding) (rows : List Row) : Prop where
  checked : ∀ row ∈ rows, row.Checked binding.packetSha256
  contiguous : Contiguous rows
  tokens : totalTokens rows ≤ binding.packetReservationLimit
  cost : totalCost rows ≤ binding.packetCostLimitMicrousd
  pricing : binding.pricingPolicySha256 = approvedPricingPolicySha256 sha256

section Builder

variable {sha256 : HashFunction} {binding : Binding} {packetSha256 : String}

theorem intWithin_iff {low high : ℤ} {value : Json} :
    intWithin low high value = true ↔ ∃ i, value = .int i ∧ low ≤ i ∧ i ≤ high := by
  cases value <;> simp [intWithin]

theorem positiveInt_iff {value : Json} : positiveInt value = true ↔ ∃ i, value = .int i ∧ 0 < i := by
  cases value <;> simp [positiveInt]

theorem knownRole_eq_ok_iff {value : Json} {role : String} :
    knownRole value = .ok role ↔ value = .str role ∧ role ∈ roles := by
  cases value with
  | str text =>
      simp only [knownRole, bind_eq_ok_iff, ensure_eq_ok_iff, exists_const, pure_eq_ok_iff,
        Json.str.injEq]
      constructor
      · rintro ⟨h, rfl⟩
        exact ⟨rfl, h⟩
      · rintro ⟨rfl, h⟩
        exact ⟨h, rfl⟩
  | _ => simp [knownRole]

theorem checkedRow_eq_ok_iff {raw : RawRow} {row : Row} :
    checkedRow packetSha256 raw = .ok row ↔ raw = row.raw ∧ row.Checked packetSha256 := by
  simp only [checkedRow, bind_eq_ok_iff, ensure_eq_ok_iff, exists_const, pure_eq_ok_iff,
    knownRole_eq_ok_iff, Json.pyEq_str_right, intWithin_iff, positiveInt_iff]
  obtain ⟨packet, roleValue, attempt, tokens, cost, time⟩ := raw
  constructor
  · rintro ⟨rfl, role, ⟨rfl, hrole⟩, ⟨⟨i, rfl, hi⟩, ⟨t, rfl, ht⟩, ⟨c, rfl, hc⟩, ⟨n, rfl, hn⟩⟩, rfl⟩
    exact ⟨rfl, rfl, hrole, hi, ht, hc, hn⟩
  · rintro ⟨hraw, hpacket, hrole, hi, ht, hc, hn⟩
    simp only [Row.raw, RawRow.mk.injEq] at hraw
    obtain ⟨rfl, rfl, rfl, rfl, rfl, rfl⟩ := hraw
    subst hpacket
    exact ⟨rfl, row.role, ⟨rfl, hrole⟩, ⟨⟨_, rfl, hi⟩, ⟨_, rfl, ht⟩, ⟨_, rfl, hc⟩, ⟨_, rfl, hn⟩⟩, rfl⟩

theorem mapM_checkedRow_eq_ok_iff {raws : List RawRow} {rows : List Row} :
    raws.mapM (checkedRow packetSha256) = .ok rows ↔
      raws = rows.map Row.raw ∧ ∀ row ∈ rows, row.Checked packetSha256 := by
  simp only [mapM_eq_ok_iff, checkedRow_eq_ok_iff]
  induction rows generalizing raws with
  | nil => simp
  | cons row rows ih =>
      simp only [List.forall₂_cons_right_iff, ih, List.map_cons, List.forall_mem_cons]
      constructor
      · rintro ⟨raw, raws, ⟨rfl, hrow⟩, ⟨rfl, hrows⟩, rfl⟩
        exact ⟨rfl, hrow, hrows⟩
      · rintro ⟨rfl, hrow, hrows⟩
        exact ⟨_, _, ⟨rfl, hrow⟩, ⟨rfl, hrows⟩, rfl⟩

theorem raw_injective : Function.Injective Row.raw := by
  rintro ⟨⟩ ⟨⟩ h
  simpa [Row.raw] using h

/-- What the builder checks and what it returns. -/
structure Builds (sha256 : HashFunction) (binding : Binding) (rows : List Row) (measured : ℤ)
    (evidence : BrokerLedgerEvidence) : Prop where
  accountable : Accountable sha256 binding rows
  clock : 0 < measured
  made : ∃ records payload,
    canonicalJson (recordsPayload binding.packetSha256 (rows.map reservationRecord)) = .ok records ∧
    canonicalJson (evidencePayload binding (totalTokens rows) (totalCost rows)
      (sha256 records).text measured) = .ok payload ∧
    ledgerEvidence sha256 binding rows records payload measured = evidence

theorem buildLedgerEvidence_eq_ok_iff {raws : List RawRow} {measured : Json}
    {evidence : BrokerLedgerEvidence} :
    buildLedgerEvidence sha256 binding raws measured = .ok evidence ↔
      ∃ rows i, raws = rows.map Row.raw ∧ measured = .int i ∧
        Builds sha256 binding rows i evidence := by
  simp only [buildLedgerEvidence, bind_eq_ok_iff, ensure_eq_ok_iff, exists_const, pure_eq_ok_iff,
    mapM_checkedRow_eq_ok_iff, positiveInt_iff]
  constructor
  · rintro ⟨rows, ⟨rfl, hchecked⟩, hcontiguous, ⟨htokens, hcost, hpricing⟩, records, hrecords,
      ⟨i, rfl, hi⟩, payload, hpayload, hmade⟩
    exact ⟨rows, i, rfl, rfl, ⟨hchecked, hcontiguous, htokens, hcost, hpricing⟩, hi, records,
      payload, hrecords, hpayload, hmade⟩
  · rintro ⟨rows, i, rfl, rfl, ⟨hchecked, hcontiguous, htokens, hcost, hpricing⟩, hi, records,
      payload, hrecords, hpayload, hmade⟩
    exact ⟨rows, ⟨rfl, hchecked⟩, hcontiguous, ⟨htokens, hcost, hpricing⟩, records, hrecords,
      ⟨i, rfl, hi⟩, payload, hpayload, hmade⟩

theorem buildLedgerEvidence_rows {rows : List Row} {i : ℤ} {evidence : BrokerLedgerEvidence} :
    buildLedgerEvidence sha256 binding (rows.map Row.raw) (.int i) = .ok evidence ↔
      Builds sha256 binding rows i evidence := by
  rw [buildLedgerEvidence_eq_ok_iff]
  constructor
  · rintro ⟨rows', i', hrows, hi, h⟩
    cases List.map_injective_iff.mpr raw_injective hrows
    cases hi
    exact h
  · exact fun h => ⟨rows, i, rfl, rfl, h⟩

theorem Row.Checked.positive {row : Row} (h : row.Checked packetSha256) :
    0 < row.reservedTokens ∧ 0 < row.reservedCostMicrousd := by
  have htokens := h.reservedTokens.1
  have hcost := h.reservedCostMicrousd.1
  omega

theorem Accountable.totals_nonneg {rows : List Row} (h : Accountable sha256 binding rows) :
    0 ≤ totalTokens rows ∧ 0 ≤ totalCost rows :=
  ⟨sum_map_nonneg fun row hrow => (h.checked row hrow).positive.1,
    sum_map_nonneg fun row hrow => (h.checked row hrow).positive.2⟩

end Builder

/-! ## Canonical records -/

section Records

theorem canonicalJson_eq_ok_iff {value : Json} {raw : Bytes} :
    canonicalJson value = .ok raw ↔ Json.compact? value = some raw := by
  simp [canonicalJson]

theorem encodes_of_canonicalJson {value : Json} {raw : Bytes} (h : canonicalJson value = .ok raw) :
    value.Encodes := by
  rw [canonicalJson_eq_ok_iff] at h
  exact Json.compact?_isSome_iff.mp (by rw [h]; rfl)

theorem canonicalJson_of_encodes {value : Json} (h : value.Encodes) :
    ∃ raw, canonicalJson value = .ok raw := by
  obtain ⟨raw, hraw⟩ := Option.isSome_iff_exists.mp (Json.compact?_isSome_iff.mpr h)
  exact ⟨raw, canonicalJson_eq_ok_iff.mpr hraw⟩

theorem sortedKeys_recordFields : recordFields.Pairwise (· < ·) := by decide

theorem isPlain_reservationRecord (row : Row) : (reservationRecord row).IsPlain := by
  rw [reservationRecord, Json.isPlain_obj]
  exact ⟨sortedKeys_recordFields, by simp⟩

theorem isPlain_recordsPayload (packetSha256 : String) (rows : List Row) :
    (recordsPayload packetSha256 (rows.map reservationRecord)).IsPlain := by
  have hitems : Json.PlainItems (rows.map reservationRecord) := by
    rw [Json.plainItems_iff]
    intro record hrecord
    obtain ⟨row, -, rfl⟩ := List.mem_map.mp hrecord
    exact isPlain_reservationRecord row
  have hsorted : ["packet_sha256", "records", "schema_version"].Pairwise (· < ·) := by decide
  rw [recordsPayload, Json.isPlain_obj]
  exact ⟨hsorted, by simp [Json.isPlain_arr, hitems]⟩

theorem rawOfRecord_reservationRecord {ε : Type} (rejected : ε) (row : Row) :
    rawOfRecord rejected (reservationRecord row) = .ok row.raw := rfl

theorem mapM_rawOfRecord {ε : Type} (rejected : ε) (rows : List Row) :
    (rows.map reservationRecord).mapM (rawOfRecord rejected) = .ok (rows.map Row.raw) := by
  rw [mapM_eq_ok_iff, List.forall₂_map_left_iff, List.forall₂_map_right_iff, List.forall₂_same]
  exact fun row _ => rawOfRecord_reservationRecord rejected row

theorem loadRecords_of_canonical {value : Json} {raw : Bytes} (hvalue : value.IsPlain)
    (h : canonicalJson value = .ok raw) : loadRecords raw = .ok value := by
  rw [canonicalJson_eq_ok_iff] at h
  obtain ⟨text, htext, hloads⟩ := Json.loads_of_compact ⟨true, false⟩ hvalue h
  simp only [loadRecords, htext, required_some, ok_bind, hloads]
  rfl

theorem payloadRecords_recordsPayload {packetSha256 : String} {records : List Json} {raw : Bytes}
    (h : canonicalJson (recordsPayload packetSha256 records) = .ok raw) :
    payloadRecords packetSha256 raw (recordsPayload packetSha256 records) = .ok records := by
  have hcanonical : canonicalJson (.obj [("packet_sha256", .str packetSha256),
      ("records", .arr records), ("schema_version", .str "1.0")]) = .ok raw := h
  simp only [recordsPayload, payloadRecords, payloadFieldsRecords]
  rw [ensure_of _ ⟨rfl, Json.pyEq_str_right _ _ |>.mpr rfl, Json.pyEq_str_right _ _ |>.mpr rfl⟩,
    ok_bind, show itemsOf _ = some records from rfl, required_some, ok_bind, hcanonical, ok_bind,
    ensure_of _ rfl, ok_bind]
  rfl

end Records

/-! ## The validator -/

section Validator

variable {sha256 : HashFunction} {binding : Binding} {rows : List Row} {measured : ℤ}
  {evidence : BrokerLedgerEvidence} {expected : Expected} {now : UnixTime}

theorem UnixTime.encodes (now : UnixTime) : (Json.int now.ns).Encodes := by
  have hfits : now.ns.natAbs < 2 ^ 63 := by
    have hpositive := now.afterEpoch
    have hbound := now.fits
    omega
  exact Json.encodes_int (hfits.trans (by decide +kernel))

/-- The evidence has a payload at any time of measurement. -/
theorem encodes_evidencePayload {tokens cost : ℤ} {records : String}
    (h : (evidencePayload binding tokens cost records measured).Encodes) (now : UnixTime) :
    (evidencePayload binding tokens cost records now.ns).Encodes := by
  simp only [evidencePayload, Json.encodes_obj, List.forall_mem_cons] at h ⊢
  obtain ⟨h₁, h₂, h₃, h₄, h₅, h₆, h₇, h₈, h₉, -, hrest⟩ := h
  exact ⟨h₁, h₂, h₃, h₄, h₅, h₆, h₇, h₈, h₉, now.encodes, hrest⟩

/-- The binding names a file under the identity that both executors give it. -/
structure Binding.OfFile (sha256 : HashFunction) (binding : Binding) : Prop where
  path : isAbsolute binding.ledgerPath = true
  device : nonnegativeInt binding.ledgerDevice = true
  inode : positiveInt binding.ledgerInode = true
  identity : ∃ raw,
    canonicalJson (identityPayload binding.ledgerDevice binding.ledgerInode binding.ledgerPath) =
      .ok raw ∧ binding.ledgerIdentitySha256 = (sha256 (identityDomain ++ raw)).text

theorem isSha256_text (digest : Sha256) : isSha256 digest.text = true := digest.matches_text

theorem Builds.wellFormed (h : Builds sha256 binding rows measured evidence)
    (hfile : binding.OfFile sha256) : evidence.WellFormed sha256 binding.expected := by
  obtain ⟨haccountable, hmeasured, records, payload, -, -, rfl⟩ := h
  obtain ⟨htokens, hcost⟩ := haccountable.totals_nonneg
  obtain ⟨raw, -, hidentity⟩ := hfile.identity
  exact { schemaVersion := rfl
          packetSha256 := rfl
          reservationLimit := rfl
          costLimit := rfl
          pricing := rfl
          path := hfile.path
          device := hfile.device
          inode := hfile.inode
          identity := by
            rw [show (ledgerEvidence sha256 binding rows records payload measured).brokerLedgerIdentitySha256
              = _ from hidentity]
            exact isSha256_text _
          records := rfl
          tokens := ⟨htokens, haccountable.tokens⟩
          cost := ⟨hcost, haccountable.cost⟩
          measured := hmeasured
          evidence := isSha256_text _ }

theorem validatedLedgerRecords_eq_ok_iff {items : List Json} :
    validatedLedgerRecords sha256 now expected evidence = .ok items ↔
      evidence.WellFormed sha256 expected ∧
      (∃ identity, canonicalJson (identityPayload evidence.ledgerDevice evidence.ledgerInode
          evidence.ledgerPath) = .ok identity ∧
        evidence.brokerLedgerIdentitySha256 = (sha256 (identityDomain ++ identity)).text) ∧
      ∃ payload raws rebuilt evidenceRaw, loadRecords evidence.records = .ok payload ∧
        payloadRecords expected.packetSha256 evidence.records payload = .ok items ∧
        items.mapM (rawOfRecord invalidEvidence) = .ok raws ∧
        buildLedgerEvidence sha256 (evidence.binding expected) raws (.int now.ns) = .ok rebuilt ∧
        canonicalJson (evidencePayload (evidence.binding expected)
          rebuilt.cumulativeReservedTokens rebuilt.cumulativeReservedCostMicrousd
          rebuilt.recordsSha256 evidence.measuredUnixNs) = .ok evidenceRaw ∧
        rebuilt.records = evidence.records ∧ rebuilt.recordsSha256 = evidence.recordsSha256 ∧
        rebuilt.cumulativeReservedTokens = evidence.cumulativeReservedTokens ∧
        rebuilt.cumulativeReservedCostMicrousd = evidence.cumulativeReservedCostMicrousd ∧
        evidence.evidenceSha256 = (sha256 (ledgerEvidenceDomain ++ evidenceRaw)).text := by
  simp only [validatedLedgerRecords, bind_eq_ok_iff, ensure_eq_ok_iff, exists_const,
    pure_eq_ok_iff]
  constructor
  · rintro ⟨hwellFormed, identity, hidentity, hdigest, payload, hload, records, hrecords, raws,
      hraws, rebuilt, hrebuilt, raw, hraw, hsame, rfl⟩
    exact ⟨hwellFormed, ⟨identity, hidentity, hdigest⟩, payload, raws, rebuilt, raw, hload,
      hrecords, hraws, hrebuilt, hraw, hsame⟩
  · rintro ⟨hwellFormed, ⟨identity, hidentity, hdigest⟩, payload, raws, rebuilt, raw, hload,
      hrecords, hraws, hrebuilt, hraw, hsame⟩
    exact ⟨hwellFormed, identity, hidentity, hdigest, payload, hload, items, hrecords, raws,
      hraws, rebuilt, hrebuilt, raw, hraw, hsame, rfl⟩

/-- Whatever the builder made of a file, the validator accepts at any time, and it finds the
records of the rows. -/
theorem Builds.validated (h : Builds sha256 binding rows measured evidence)
    (hfile : binding.OfFile sha256) (now : UnixTime) :
    validatedLedgerRecords sha256 now binding.expected evidence =
      .ok (rows.map reservationRecord) := by
  have hwellFormed := h.wellFormed hfile
  obtain ⟨haccountable, hmeasured, records, payload, hrecords, hpayload, rfl⟩ := h
  obtain ⟨rebuiltPayload, hrebuiltPayload⟩ := canonicalJson_of_encodes
    (encodes_evidencePayload (encodes_of_canonicalJson hpayload) now)
  have hrebuild : buildLedgerEvidence sha256 binding (rows.map Row.raw) (.int now.ns) =
      .ok (ledgerEvidence sha256 binding rows records rebuiltPayload now.ns) :=
    buildLedgerEvidence_rows.mpr
      ⟨haccountable, now.afterEpoch, records, rebuiltPayload, hrecords, hrebuiltPayload, rfl⟩
  have hload := loadRecords_of_canonical (isPlain_recordsPayload _ rows) hrecords
  rw [validatedLedgerRecords_eq_ok_iff]
  exact ⟨hwellFormed, hfile.identity, _, _, _, payload, hload,
    payloadRecords_recordsPayload hrecords, mapM_rawOfRecord _ rows, hrebuild, hpayload,
    rfl, rfl, rfl, rfl, rfl⟩

/-- Evidence that the validator accepts was made of accountable rows. -/
structure Attests (sha256 : HashFunction) (expected : Expected) (evidence : BrokerLedgerEvidence)
    (rows : List Row) : Prop where
  packetSha256 : evidence.packetSha256 = expected.packetSha256
  accountable : Accountable sha256 (evidence.binding expected) rows
  records : canonicalJson (recordsPayload expected.packetSha256 (rows.map reservationRecord)) =
    .ok evidence.records
  tokens : evidence.cumulativeReservedTokens = totalTokens rows
  cost : evidence.cumulativeReservedCostMicrousd = totalCost rows

theorem attests_of_validated {items : List Json}
    (h : validatedLedgerRecords sha256 now expected evidence = .ok items) :
    ∃ rows, items = rows.map reservationRecord ∧ Attests sha256 expected evidence rows := by
  obtain ⟨hwellFormed, -, payload, raws, rebuilt, -, hload, hitems, hraws, hrebuilt, -, hrecords, -,
    htokens, hcost, -⟩ := validatedLedgerRecords_eq_ok_iff.mp h
  obtain ⟨rows, i, rfl, -, haccountable, -, records, _, hcanonical, -, rfl⟩ :=
    buildLedgerEvidence_eq_ok_iff.mp hrebuilt
  cases (show records = evidence.records from hrecords)
  -- the bytes determine the payload, so its records are those of the rows
  have hpayload := loadRecords_of_canonical (isPlain_recordsPayload _ rows) hcanonical
  cases hload.symm.trans hpayload
  cases hitems.symm.trans (payloadRecords_recordsPayload hcanonical)
  exact ⟨rows, rfl, hwellFormed.packetSha256, haccountable, hcanonical, htokens.symm, hcost.symm⟩

theorem reservationRecord_injective : Function.Injective reservationRecord := by
  rintro ⟨⟩ ⟨⟩ h
  simp only [reservationRecord, Json.obj.injEq, List.cons.injEq, Prod.mk.injEq, Json.int.injEq,
    Json.str.injEq, true_and, and_true] at h
  obtain ⟨rfl, rfl, rfl, rfl, rfl, rfl⟩ := h
  rfl

end Validator
end AmazonSimilarSearch.BrokerLedger
