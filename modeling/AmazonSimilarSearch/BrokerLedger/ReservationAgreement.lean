import AmazonSimilarSearch.BrokerLedger.FrozenAgreement

/-!
# Reservations are decoded with every later ledger

A reservation lists the rows of its packet up to its own, in the order of the
keys, and one of them is its own. So `_decode_reservation` accepts it with the
frozen ledger of any later table, and finds that row.
-/
namespace AmazonSimilarSearch.BrokerLedger
open Foundation Broker

section Reserved

variable {sha256 : HashFunction} {session : LedgerSession} {host : Host} {packet : Sha256}
  {run : PreparedRun} {table next : Table} {payload : Json} {now : UnixTime}
  {final : BrokerLedgerEvidence} {measured : ℤ}

theorem recordKey_reservationRecord (row : Row) :
    recordKey (reservationRecord row) = .ok (row.role, row.attempt) := rfl

theorem mapM_recordKey (rows : List Row) :
    (rows.map reservationRecord).mapM recordKey = .ok (rows.map fun row => (row.role, row.attempt)) := by
  rw [mapM_eq_ok_iff, List.forall₂_map_left_iff, List.forall₂_map_right_iff, List.forall₂_same]
  exact fun row _ => recordKey_reservationRecord row

/-- Rows are read in the order of their keys. -/
theorem keysOrdered_ledgerRows (table : Table) (packetSha256 : String) :
    keysOrdered ((ledgerRows table packetSha256).map fun row => (row.role, row.attempt)) = true := by
  have hsorted := List.pairwise_mergeSort orderedBefore_trans orderedBefore_total
    (ofPacket table packetSha256)
  rw [keysOrdered, decide_eq_true_eq, List.pairwise_map]
  exact hsorted.imp fun h => orderedBefore_iff.mp h

/-- The records of a role and an attempt are those of its rows. -/
theorem matchingRecords_map (run : PreparedRun) (rows : List Row) :
    matchingRecords run (rows.map reservationRecord) =
      ((ofRole rows run.role).filter fun row => row.attempt = run.attempt).map
        reservationRecord := by
  rw [matchingRecords, List.filter_map, ofRole, List.filter_filter]
  refine congrArg _ (List.filter_congr fun row _ => ?_)
  rw [Bool.eq_iff_iff]
  simp only [Function.comp_apply, Bool.and_eq_true, decide_eq_true_eq,
    show recordField (reservationRecord row) "role" = .str row.role from rfl,
    show recordField (reservationRecord row) "attempt" = .int row.attempt from rfl, pyEq_int_iff,
    Json.pyEq_str_left, Json.str.injEq]
  exact ⟨fun ⟨hrole, hattempt⟩ => ⟨hattempt, hrole.symm⟩,
    fun ⟨hattempt, hrole⟩ => ⟨hrole.symm, hattempt⟩⟩

/-- The last row of a numbered list is the only one with its number. -/
theorem filter_last {rows : List Row} {row : Row} (h : Numbered Row.attempt (rows ++ [row])) :
    (rows ++ [row]).filter (fun other => other.attempt = row.attempt) = [row] := by
  have hbefore : ∀ other ∈ rows, ¬ other.attempt = row.attempt := fun other hother => by
    have hlt := (List.pairwise_append.mp h.pairwise_lt).2.2 other hother row (by simp)
    omega
  rw [List.filter_append, List.filter_eq_nil_iff.mpr (by simpa using hbefore)]
  simp

/-- The records of a committed reservation hold its row once. -/
theorem matchingRecords_reserved
    (h : OuterReserves host (session.batch sha256 packet) run (session.identity sha256) table next
      payload) (hnext : TableBudgeted session.packetLimits next) :
    matchingRecords run ((ledgerRows next packet.text).map reservationRecord) =
      [reservationRecord (run.row packet.text host.reservedAt)] := by
  have hrows : ofRole (ofPacket next packet.text) run.role =
      ofRole (ofPacket table packet.text) run.role ++ [run.row packet.text host.reservedAt] := by
    have happend := ofPacket_append table (run.row packet.text host.reservedAt) packet.text
    rw [show (run.row packet.text host.reservedAt).packetSha256 = packet.text from rfl,
      if_pos rfl] at happend
    rw [h.next_eq, show (session.batch sha256 packet).reviewPacketSha256 = packet from rfl, happend,
      ofRole_append, ofRole_singleton]
    exact congrArg _ (if_pos rfl)
  have hnumbered := (hnext packet.text).numbered run.role
  rw [hrows] at hnumbered
  have hlast := filter_last hnumbered
  rw [matchingRecords_map, ofRole_ledgerRows (hnext packet.text), hrows]
  exact congrArg _ hlast

theorem totals_reserved
    (h : OuterReserves host (session.batch sha256 packet) run (session.identity sha256) table next
      payload) :
    totalTokens (ledgerRows next packet.text) =
        totalTokens (ofPacket table packet.text) + run.reservedTokens ∧
      totalCost (ledgerRows next packet.text) =
        totalCost (ofPacket table packet.text) + run.reservedCostMicrousd := by
  have happend := ofPacket_append table (run.row packet.text host.reservedAt) packet.text
  rw [show (run.row packet.text host.reservedAt).packetSha256 = packet.text from rfl,
    if_pos rfl] at happend
  rw [totalTokens_ledgerRows, totalCost_ledgerRows, h.next_eq,
    show (session.batch sha256 packet).reviewPacketSha256 = packet from rfl, happend,
    totalTokens_concat, totalCost_concat]
  exact ⟨rfl, rfl⟩

/-- What `_reserve` returned is decoded with any ledger of the session. -/
theorem OuterReserves.decoded
    (h : OuterReserves host (session.batch sha256 packet) run (session.identity sha256) table next
      payload) (hnext : TableBudgeted session.packetLimits next) {later : Table}
    (hfinal : session.Measured sha256 packet later measured final) (now : UnixTime) :
    ∃ ledger, decodeReservation sha256 now (session.batch sha256 packet) run final payload =
      .ok (ledger, reservationRecord (run.row packet.text host.reservedAt)) := by
  obtain ⟨ledger, hledger⟩ := builds_session sha256 hnext packet.text host.measuredAt
  refine ⟨ledger, ?_⟩
  have hrow : run.row packet.text host.reservedAt ∈ ledgerRows next packet.text := by
    rw [mem_ledgerRows, h.next_eq, mem_ofPacket]
    exact ⟨List.mem_append_right _ (List.mem_singleton_self _), rfl⟩
  have hmatching := matchingRecords_reserved h hnext
  obtain ⟨htokens, hcost⟩ := totals_of_builds hledger
  obtain ⟨htotalTokens, htotalCost⟩ := totals_reserved h
  obtain ⟨-, -, _, _, -, -, rfl⟩ := hfinal
  have hrebuild := fun compare invalid hcompare => rebuildLedger_of_builds now
    compare invalid hledger (ofFile_session sha256 session _ packet.text) hcompare
  rw [h.payload]
  simp only [reservationPayload, decodeReservation, decodeReservationFields, bind_eq_ok_iff,
    ensure_eq_ok_iff, exists_const, required_eq_ok_iff, pure_eq_ok_iff]
  refine ⟨rfl, _, rfl, ?_, _, mapM_rawOfRecord _ _, _, mapM_recordKey _, keysOrdered_ledgerRows _ _,
    ⟨pyEq_str_self _, pyEq_int_self _, pyEq_int_self _, rfl,
      decide_eq_true session.file.stat.inode_within.1, decide_eq_true host.measuredAt.afterEpoch,
      ?_⟩, _, (congrArg List.head? hmatching).trans rfl,
    ⟨pyEq_str_self _, pyEq_int_self _, pyEq_int_self _, pyEq_int_self _⟩, ledger, ?_, rfl⟩
  · exact List.ne_nil_of_mem (List.mem_map_of_mem hrow)
  · exact congrArg List.length hmatching
  · refine hrebuild _ _ ?_
    rw [ensure_eq_ok_iff, htokens, hcost, htotalTokens, htotalCost]
    exact ⟨pyEq_int_self _, pyEq_int_self _⟩

end Reserved

/-! ## Both ledgers, along every run -/

/-- A reservation that was returned is decoded with the frozen ledger of every later table. -/
def DecodesLater (sha256 : HashFunction) (session : LedgerSession) (packet : Sha256)
    (run : PreparedRun) : Except Raised Json × Table → Prop
  | (.ok payload, next) => ∀ (later : List LedgerOp) (host : Host) (now : UnixTime), Returned (fun frozen => ∃ final ledger record,
      decodeFrozenLedger sha256 now (session.batch sha256 packet) frozen = .ok final ∧
      decodeReservation sha256 now (session.batch sha256 packet) run final payload =
        .ok (ledger, record))
      (session.freeze sha256 host packet (later.foldl (session.step sha256) next))
  | (.error _, _) => True

/-- The two ledgers agree on a table: on the next reservation, on what is measured of it, and on
what was reserved in it. -/
structure LedgersAgree (sha256 : HashFunction) (session : LedgerSession) (table : Table) : Prop where
  reserve : ∀ host packet run, Agree (session.outerReserve sha256 host packet run table)
    (reserveAttempt sha256 (host.onFile session.file) (session.call sha256 packet run) table)
  frozen : ∀ host packet, Returned (fun frozen => ∀ now, ∃ ledger,
      decodeFrozenLedger sha256 now (session.batch sha256 packet) frozen = .ok ledger ∧
      ∀ host', Returned (SameLedger ledger) (session.measure sha256 host' packet table))
    (session.freeze sha256 host packet table)
  measured : ∀ (host : Host) packet, host.Healthy session → ofPacket table packet.text ≠ [] →
    (∃ frozen, session.freeze sha256 host packet table = .ok frozen) ∧
      ∃ evidence, session.measure sha256 host packet table = .ok evidence
  reservation : ∀ host packet run,
    DecodesLater sha256 session packet run (session.outerReserve sha256 host packet run table)

theorem decodesLater (sha256 : HashFunction) (session : LedgerSession) (host : Host)
    (packet : Sha256) (run : PreparedRun) {table : Table}
    (hbudget : TableBudgeted session.packetLimits table) :
    DecodesLater sha256 session packet run (session.outerReserve sha256 host packet run table) := by
  rcases outerReserve_cases sha256 session host packet run table with
    ⟨e, hcall⟩ | ⟨payload, result, next, hreserves, hcall, hresult⟩
  · rw [hcall]
    trivial
  · rw [hcall]
    rcases hresult with rfl | ⟨e, rfl⟩
    · intro later host' now
      rw [returned_iff]
      intro frozen hfrozen
      have hnext := hreserves.tableBudgeted hbudget
      obtain ⟨final, hfinal, hmeasured⟩ := (freezes_of_measureFrozenLedger hfrozen).decoded
        (session_from_budgeted later hnext) now
      obtain ⟨ledger, hdecoded⟩ := hreserves.decoded hnext hmeasured now
      exact ⟨final, ledger, _, hfinal, hdecoded⟩
    · trivial

theorem budgetLedgers_agree (sha256 : HashFunction) (session : LedgerSession)
    (ops : List LedgerOp) : LedgersAgree sha256 session (session.run sha256 ops) := by
  have hbudget := session_run_budgeted sha256 session ops
  refine ⟨fun host packet run => reserve_agree sha256 session host packet run hbudget, ?_, ?_,
    fun host packet run => decodesLater sha256 session host packet run hbudget⟩
  · intro host packet
    rw [returned_iff]
    intro frozen hfrozen now
    obtain ⟨ledger, hledger, hmeasured⟩ :=
      (freezes_of_measureFrozenLedger hfrozen).decoded hbudget now
    refine ⟨ledger, hledger, fun host' => ?_⟩
    rw [returned_iff]
    exact fun evidence hevidence => sameLedger_of_measured hmeasured (measured_of_measure hevidence)
  · intro host packet hhealthy hrecord
    exact ⟨freeze_of_healthy hhealthy hbudget hrecord, measure_of_healthy hhealthy hbudget⟩

end AmazonSimilarSearch.BrokerLedger
