import AmazonSimilarSearch.BrokerLedger.Agreement

/-!
# Frozen ledgers and reservations are decoded

What `_measure_frozen_ledger` returns is decoded to evidence of the same rows
under the same binding as `measure_broker_ledger` takes them, so the two differ in
nothing but the time of measurement; and what `_reserve` returned is decoded with
the frozen ledger of any later table.
-/
namespace AmazonSimilarSearch.BrokerLedger
open Foundation Broker

section Frozen

variable {sha256 : HashFunction} {session : LedgerSession} {host : Host} {packet : Sha256}
  {run : PreparedRun} {table next : Table} {now : UnixTime} {measuredAt : UnixTime}
  {evidence final : BrokerLedgerEvidence} {measured : ℤ}

/-- The binding of measurements in a session. -/
def LedgerSession.binding (sha256 : HashFunction) (session : LedgerSession) (packet : Sha256) :
    Binding :=
  ledgerBinding sha256 (session.packetLimits packet.text) (session.identity sha256) packet.text

/-- Evidence of the packet's rows in the session, measured at a time. -/
abbrev LedgerSession.Measured (sha256 : HashFunction) (session : LedgerSession) (packet : Sha256)
    (table : Table) (measured : ℤ) (evidence : BrokerLedgerEvidence) : Prop :=
  Builds sha256 (session.binding sha256 packet) (ledgerRows table packet.text) measured evidence

/-- The typed side rebuilds and validates what it was given. -/
theorem rebuildLedger_of_builds {binding : Binding} {rows : List Row} (now : UnixTime)
    (compare : BrokerLedgerEvidence → Except DecodeError Unit)
    (invalid : ExecutorError → DecodeError) (h : Builds sha256 binding rows measured evidence)
    (hfile : binding.OfFile sha256) (hcompare : compare evidence = .ok ()) :
    rebuildLedger sha256 now binding (rows.map Row.raw) (.int measured) compare invalid =
      .ok evidence := by
  obtain ⟨raw, -, hidentity⟩ := hfile.identity
  have hbuild := buildLedgerEvidence_rows.mpr h
  have hvalid : validateFrozenLedger sha256 now evidence binding.expected
      binding.ledgerIdentitySha256 = .ok evidence := by
    have hvalidated := h.validated hfile now
    have hsame : evidence.brokerLedgerIdentitySha256 = binding.ledgerIdentitySha256 := by
      obtain ⟨-, -, _, _, -, -, rfl⟩ := h
      rfl
    unfold validateFrozenLedger
    rw [ensure_of _ (hidentity ▸ isSha256_text _), ok_bind, hvalidated, ok_bind,
      ensure_of _ hsame, ok_bind]
    rfl
  simp only [rebuildLedger, hbuild]
  rw [show Except.mapError DecodeError.executor (.ok evidence) = .ok evidence from rfl, ok_bind,
    hcompare, ok_bind]
  exact mapError_eq_ok_iff.mpr hvalid

/-- What a frozen ledger holds. -/
structure Freezes (sha256 : HashFunction) (session : LedgerSession) (packet : Sha256)
    (table : Table) (measuredAt : UnixTime) (frozen : Json) : Prop where
  nonempty : ledgerRows table packet.text ≠ []
  made : ∃ records unsigned,
    canonicalJson (recordsPayload packet.text
      ((ledgerRows table packet.text).map reservationRecord)) = .ok records ∧
    Json.compact? (.obj (frozenFields (session.identity sha256) (session.batch sha256 packet)
      (totalTokens (ledgerRows table packet.text)) (totalCost (ledgerRows table packet.text))
      measuredAt ((ledgerRows table packet.text).map reservationRecord) (sha256 records).text [])) =
        some unsigned ∧
    frozen = .obj (frozenFields (session.identity sha256) (session.batch sha256 packet)
      (totalTokens (ledgerRows table packet.text)) (totalCost (ledgerRows table packet.text))
      measuredAt ((ledgerRows table packet.text).map reservationRecord) (sha256 records).text
      [("final_ledger_sha256", .str (sha256 (frozenLedgerDomain ++ unsigned)).text)])

theorem frozenRows_session {identity : LedgerIdentity} {rows : List Row}
    (h : frozenRows sha256 (host.onFile session.file) (session.batch sha256 packet) table =
      .ok (identity, rows)) :
    identity = session.identity sha256 ∧ rows = ledgerRows table packet.text := by
  simp only [frozenRows, bind_eq_ok_iff, exists_const, pure_eq_ok_iff, outerSql_eq_ok_iff,
    execute_eq_ok_iff, ensure_eq_ok_iff] at h
  obtain ⟨found, hfound, -, -, -, after, -, -, hpair⟩ := h
  cases hpair
  refine ⟨?_, rfl⟩
  cases hconnect : host.fails .connect with
  | true =>
      rw [outerOpen_unconnected hconnect] at hfound
      cases hfound
  | false =>
      rw [outerOpen_session hconnect] at hfound
      exact (Except.ok.inj hfound).symm

theorem freezes_of_measureFrozenLedger {frozen : Json}
    (h : measureFrozenLedger sha256 (host.onFile session.file) (session.batch sha256 packet) table =
      .ok frozen) : Freezes sha256 session packet table host.measuredAt frozen := by
  simp only [measureFrozenLedger, bind_eq_ok_iff, ensure_eq_ok_iff, exists_const,
    pure_eq_ok_iff] at h
  obtain ⟨⟨identity, rows⟩, hrows, -, ⟨hnonempty, -⟩, records, hrecords, unsigned, hunsigned,
    hfrozen⟩ := h
  obtain ⟨rfl, rfl⟩ := frozenRows_session hrows
  rw [canonical_eq_ok_iff] at hrecords hunsigned
  exact ⟨hnonempty, records, unsigned, canonicalJson_eq_ok_iff.mpr hrecords, hunsigned,
    hfrozen.symm⟩

/-- The binding that a decoder takes from a frozen ledger is that of the session. -/
theorem batchBinding_session (sha256 : HashFunction) (session : LedgerSession) (packet : Sha256) :
    batchBinding (session.batch sha256 packet) session.file.path.text
      (.int session.file.stat.device) (.int session.file.stat.inode) =
        session.binding sha256 packet := rfl

theorem totals_of_builds {binding : Binding} {rows : List Row}
    (h : Builds sha256 binding rows measured evidence) :
    evidence.cumulativeReservedTokens = totalTokens rows ∧
      evidence.cumulativeReservedCostMicrousd = totalCost rows := by
  obtain ⟨-, -, _, _, -, -, rfl⟩ := h
  exact ⟨rfl, rfl⟩

theorem pyEq_int_self (i : ℤ) : (Json.int i).pyEq (.int i) = true := pyEq_int_iff.mpr rfl

theorem pyEq_str_self (text : String) : (Json.str text).pyEq (.str text) = true :=
  (Json.pyEq_str_right _ _).mpr rfl

/-- A frozen ledger is decoded to evidence of its rows. -/
theorem Freezes.decoded {frozen : Json}
    (h : Freezes sha256 session packet table measuredAt frozen)
    (hbudget : TableBudgeted session.packetLimits table) (now : UnixTime) :
    ∃ ledger, decodeFrozenLedger sha256 now (session.batch sha256 packet) frozen = .ok ledger ∧
      session.Measured sha256 packet table measuredAt.ns ledger := by
  obtain ⟨hnonempty, records, unsigned, hrecords, hunsigned, rfl⟩ := h
  obtain ⟨ledger, hledger⟩ :=
    builds_session sha256 hbudget packet.text measuredAt
  refine ⟨ledger, ?_, hledger⟩
  have hrecordsSha256 : ledger.recordsSha256 = (sha256 records).text := by
    obtain ⟨-, -, records', _, hrecords', -, rfl⟩ := hledger
    cases (Except.ok.inj (hrecords.symm.trans hrecords'))
    rfl
  obtain ⟨htokens, hcost⟩ := totals_of_builds hledger
  have hpath := session.file.path.normal
  have hrebuild := fun compare hcompare => rebuildLedger_of_builds now compare .executor
    hledger (ofFile_session sha256 session _ packet.text) hcompare
  simp only [decodeFrozenLedger, decodeFrozenFields, bind_eq_ok_iff, ensure_eq_ok_iff, exists_const,
    required_eq_ok_iff]
  refine ⟨rfl, pyEq_str_self _, _, rfl, isSha256_text _, unsigned,
    required_eq_ok_iff.mpr hunsigned, ⟨rfl, pyEq_str_self _, pyEq_str_self _, pyEq_int_self _,
      pyEq_int_self _, pyEq_str_self _⟩, session.file.path.text, rfl, ?_, _, rfl, ?_, _,
    mapM_rawOfRecord _ _, ?_⟩
  · rw [hpath]
    exact session.file.path.absolute
  · simpa using hnonempty
  · rw [hpath]
    refine hrebuild _ ?_
    rw [ensure_eq_ok_iff, hrecordsSha256, htokens, hcost]
    exact ⟨pyEq_str_self _, pyEq_int_self _, pyEq_int_self _⟩

/-- What `measure_broker_ledger` returns in a session. -/
def LedgerSession.measure (sha256 : HashFunction) (session : LedgerSession) (host : Host)
    (packet : Sha256) (table : Table) : Except ExecutorError BrokerLedgerEvidence :=
  measureBrokerLedger sha256 (host.onFile session.file) packet.text
    (session.limits packet.text).tokens (session.limits packet.text).cost
    (approvedPricingPolicySha256 sha256) table

/-- What `_measure_frozen_ledger` returns in a session. -/
def LedgerSession.freeze (sha256 : HashFunction) (session : LedgerSession) (host : Host)
    (packet : Sha256) (table : Table) : Except Raised Json :=
  measureFrozenLedger sha256 (host.onFile session.file) (session.batch sha256 packet) table

theorem measured_of_measure (h : session.measure sha256 host packet table = .ok evidence) :
    session.Measured sha256 packet table host.measuredAt.ns evidence := by
  simp only [LedgerSession.measure, measureBrokerLedger, Host.onFile, bind_eq_ok_iff,
    ensure_eq_ok_iff, exists_const, mapError_eq_ok_iff, pure_eq_ok_iff, sql_eq_ok_iff,
    execute_eq_ok_iff, buildLedgerEvidence_rows, ledgerIdentity_session] at h
  obtain ⟨-, identity, hidentity, -, -, -, built, hbuilds, -, after, -, -, rfl⟩ := h
  cases hidentity
  exact hbuilds

/-- The evidences are the same but for the time of measurement and the digest over it. -/
def SameLedger (ledger evidence : BrokerLedgerEvidence) : Prop :=
  { evidence with
    measuredUnixNs := ledger.measuredUnixNs, evidenceSha256 := ledger.evidenceSha256 } = ledger ∧
  (evidence.measuredUnixNs = ledger.measuredUnixNs → evidence = ledger)

theorem sameLedger_of_measured {measured' : ℤ} {ledger : BrokerLedgerEvidence}
    (h : session.Measured sha256 packet table measured ledger)
    (h' : session.Measured sha256 packet table measured' evidence) :
    SameLedger ledger evidence := by
  obtain ⟨-, -, records, payload, hrecords, hpayload, rfl⟩ := h
  obtain ⟨-, -, records', payload', hrecords', hpayload', rfl⟩ := h'
  cases (Except.ok.inj (hrecords.symm.trans hrecords'))
  refine ⟨rfl, fun htime => ?_⟩
  have htimes : measured' = measured := htime
  subst htimes
  cases (Except.ok.inj (hpayload.symm.trans hpayload'))
  rfl

/-- A host at which nothing fails and the file stays. -/
structure Host.Healthy (session : LedgerSession) (host : Host) : Prop where
  runs : ∀ statement, host.fails statement = false
  stays : host.after = some session.file.stat

theorem measure_of_healthy (hhost : host.Healthy session)
    (hbudget : TableBudgeted session.packetLimits table) :
    ∃ evidence, session.measure sha256 host packet table = .ok evidence := by
  obtain ⟨evidence, hbuilds⟩ := builds_session sha256 hbudget packet.text
    host.measuredAt
  refine ⟨evidence, ?_⟩
  simp only [LedgerSession.measure, measureBrokerLedger, Host.onFile, bind_eq_ok_iff,
    ensure_eq_ok_iff, exists_const, mapError_eq_ok_iff, pure_eq_ok_iff, sql_eq_ok_iff,
    execute_eq_ok_iff, buildLedgerEvidence_rows, ledgerIdentity_session, hhost.stays]
  have htokens := (session.limits packet.text).tokens_within
  exact ⟨⟨isSha256_text _, htokens, (session.limits packet.text).cost_within, trivial⟩, _, rfl,
    hhost.runs _, hhost.runs _, hhost.runs _, evidence, hbuilds, hhost.runs _, _, rfl, rfl, rfl⟩

theorem frozenRecordValid_of_checked {packetSha256 : String} {row : Row}
    (h : row.Checked packetSha256) : frozenRecordValid row :=
  ⟨h.role, h.attempt, h.reservedTokens, h.reservedCostMicrousd, h.reservationUnixNs⟩

/-- A frozen ledger has canonical text when the evidence and the records have. -/
theorem encodes_frozenFields {records : List Json} {digest : String}
    (hevidence : (evidencePayload (session.binding sha256 packet)
      (totalTokens (ledgerRows table packet.text)) (totalCost (ledgerRows table packet.text)) digest
      measuredAt.ns).Encodes)
    (hrecords : (recordsPayload packet.text records).Encodes) :
    (Json.obj (frozenFields (session.identity sha256) (session.batch sha256 packet)
      (totalTokens (ledgerRows table packet.text)) (totalCost (ledgerRows table packet.text))
      measuredAt records digest [])).Encodes := by
  simp only [evidencePayload, Json.encodes_obj, List.forall_mem_cons] at hevidence
  simp only [recordsPayload, Json.encodes_obj, List.forall_mem_cons] at hrecords
  obtain ⟨h₁, h₂, h₃, h₄, h₅, h₆, h₇, h₈, h₉, h₁₀, h₁₁, h₁₂, h₁₃, -⟩ := hevidence
  rw [Json.encodes_obj]
  show ∀ field ∈ [_, _, _, _, _, _, _, _, _, _, _, _, _, _], _
  simp only [List.forall_mem_cons]
  exact ⟨h₁, h₂, h₃, h₄, h₅, h₆, h₇, h₈, h₉, h₁₀, h₁₁, hrecords.2.1, h₁₂, h₁₃, by simp⟩

theorem freeze_of_healthy (hhost : host.Healthy session)
    (hbudget : TableBudgeted session.packetLimits table)
    (hrecord : ofPacket table packet.text ≠ []) :
    ∃ frozen, session.freeze sha256 host packet table = .ok frozen := by
  have hopen : outerOpen sha256 measurementFailed (host.onFile session.file)
      (session.batch sha256 packet) = .ok (session.identity sha256) :=
    outerOpen_session (hhost.runs .connect)
  have hafter : outerLedgerIdentity sha256 (host.onFile session.file).path
      (host.onFile session.file).after = .ok (session.identity sha256) := by
    rw [show (host.onFile session.file).after = _ from hhost.stays]
    exact outerLedgerIdentity_eq_ok_iff.mpr (ledgerIdentity_session sha256 session)
  have hrows : frozenRows sha256 (host.onFile session.file) (session.batch sha256 packet) table =
      .ok (session.identity sha256, ledgerRows table packet.text) := by
    simp only [frozenRows, bind_eq_ok_iff, exists_const, pure_eq_ok_iff, outerSql_eq_ok_iff,
      execute_eq_ok_iff, ensure_eq_ok_iff]
    exact ⟨_, hopen, hhost.runs _, hhost.runs _, hhost.runs _, _, hafter, ⟨rfl, rfl, rfl⟩, rfl⟩
  obtain ⟨evidence, haccountable, -, records, payload, hrecords, hpayload, -⟩ :=
    builds_session sha256 hbudget packet.text host.measuredAt
  obtain ⟨unsigned, hunsigned⟩ := Option.isSome_iff_exists.mp (Json.compact?_isSome_iff.mpr
    (encodes_frozenFields (encodes_of_canonicalJson hpayload) (encodes_of_canonicalJson hrecords)))
  have hnonempty : ledgerRows table packet.text ≠ [] := by
    obtain ⟨row, hrow⟩ := List.exists_mem_of_ne_nil _ hrecord
    exact List.ne_nil_of_mem (mem_ledgerRows.mpr hrow)
  have hvalid : ∀ row ∈ ledgerRows table packet.text, frozenRecordValid row :=
    fun row hrow => frozenRecordValid_of_checked (haccountable.checked row hrow)
  simp only [LedgerSession.freeze, measureFrozenLedger, bind_eq_ok_iff, ensure_eq_ok_iff,
    exists_const, pure_eq_ok_iff]
  exact ⟨_, _, hrows, hvalid, ⟨hnonempty, haccountable.contiguous, haccountable.tokens,
    haccountable.cost⟩, records,
    canonical_eq_ok_iff.mpr (canonicalJson_eq_ok_iff.mp hrecords), unsigned,
    canonical_eq_ok_iff.mpr hunsigned, rfl⟩

end Frozen
end AmazonSimilarSearch.BrokerLedger
